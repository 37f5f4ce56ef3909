import Packrat.Proofs.Machine.Examined
import Packrat.Proofs.Machine.Twins

/-!
# Labels without a place

A run goes to labels only: by a jump, where an operation on the text does not succeed, or where a
call fails. Each time the program looks the place of the label up, and that is the only way in which
a run of its own can fault for want of one.

* `Throws`: the faults of an action.
* `Blames`: a fault for want of a place is that of the label that an instruction names.

Main statement: `blamed_of_runs`.
-/

namespace Packrat.Machine

/-! ## Faults of actions -/

variable {α β : Type} {env : Environment} {p : Program} {F : EngineFault → Prop}

/-- All faults of an action have a property. -/
def Throws (F : EngineFault → Prop) (act : Exec α) : Prop :=
  ∀ s fault s', act s = .error fault s' → F fault

/-- A fault is not about a label without a place. -/
def Elsewhere (fault : EngineFault) : Prop :=
  ∀ program label, fault ≠ .unmarkedLabel program label

/-- If a fault is about a label without a place, the instruction names the label. -/
def Blames (p : Program) (i : Instruction) (fault : EngineFault) : Prop :=
  ∀ program l, fault = .unmarkedLabel program l →
    ∃ label, i.target? = some label ∧ p.target label = .error fault

/-- A value of the wrong kind is not about a label. -/
theorem elsewhere_valueKind {program expected found : String} :
    Elsewhere (.valueKind program expected found) := nofun

namespace Throws

/-- Returning something has no faults. -/
theorem pure (a : α) : Throws F (pure a : Exec α) := fun _ _ _ => nofun

/-- An action that only fails has the fault that it fails with. -/
theorem throw {fault : EngineFault} (allowed : F fault) : Throws F (throw fault : Exec α) := by
  intro s fault' s' failed
  cases failed
  exact allowed

/-- The faults of two actions are those of both. -/
theorem bind {act : Exec α} {go : α → Exec β} (first : Throws F act)
    (second : ∀ a, Throws F (go a)) : Throws F (act >>= go) := by
  intro s fault s' failed
  cases ran : act s with
  | error fault' after =>
    rw [bind_error ran] at failed
    cases failed
    exact first s fault s' ran
  | ok a after =>
    rw [bind_ok ran] at failed
    exact second a after fault s' failed

/-- Faults with a property have every weaker one. -/
theorem mono {G : EngineFault → Prop} {act : Exec α} (throws : Throws F act)
    (weaker : ∀ fault, F fault → G fault) : Throws G act :=
  fun s fault s' failed => weaker fault (throws s fault s' failed)

/-- Going on to the next instruction adds no faults. -/
theorem thenNext {act : Exec Unit} (throws : Throws F act) : Throws F (thenNext act) :=
  throws.bind fun _ => .pure _

/-- The faults of a look-up are the ones that it finds. -/
theorem lookUp {found : Except EngineFault α} (allowed : ∀ fault, found = .error fault → F fault) :
    Throws F (lookUp found) := by
  cases found with
  | ok a => exact .pure a
  | error fault => exact .throw (allowed fault rfl)

end Throws

/-! ## Actions on registers and text -/

/-- No fault of reading an integer is about a label without a place. -/
theorem readInt_throws (slot : IntSlot) : Throws Elsewhere (readInt p slot) := by
  intro s fault s' failed
  unfold readInt at failed
  split at failed <;> cases failed
  exact nofun

/-- No fault of writing an integer is. -/
theorem writeInt_throws (slot : IntSlot) (n : Int) : Throws Elsewhere (writeInt p slot n) := by
  rintro ⟨⟨ints, objs⟩, cursor⟩ fault s' failed
  unfold writeInt at failed
  dsimp only at failed
  split at failed <;> cases failed
  exact nofun

/-- No fault of reading an object is. -/
theorem readObj_throws (slot : ObjSlot) : Throws Elsewhere (readObj p slot) := by
  intro s fault s' failed
  unfold readObj at failed
  split at failed <;> cases failed
  exact nofun

/-- No fault of writing an object is. -/
theorem writeObj_throws (slot : ObjSlot) (v : Value) : Throws Elsewhere (writeObj p slot v) := by
  rintro ⟨⟨ints, objs⟩, cursor⟩ fault s' failed
  unfold writeObj at failed
  dsimp only at failed
  split at failed <;> cases failed
  exact nofun

/-- No fault of taking an object is. -/
theorem takeObj_throws (slot : ObjSlot) : Throws Elsewhere (takeObj p slot) := by
  rintro ⟨⟨ints, objs⟩, cursor⟩ fault s' failed
  unfold takeObj at failed
  dsimp only at failed
  split at failed <;> cases failed
  exact nofun

/-- No fault of reading a position is. -/
theorem readPosition_throws (slot : IntSlot) : Throws Elsewhere (readPosition p slot) := by
  refine .bind (readInt_throws slot) fun raw => ?_
  split
  · exact .throw nofun
  · exact .pure _

/-- No fault of going to a place is. -/
theorem seek_throws (pos : Nat) : Throws Elsewhere (seek env p pos) := by
  unfold seek
  split
  · exact fun _ _ _ => nofun
  · exact .throw nofun

/-- Looking where the run is has no faults. -/
theorem position_throws : Throws F position := fun _ _ _ => nofun

/-- Going forward has no faults. -/
theorem advanceTo_throws (stop : Nat) : Throws F (advanceTo stop) := fun _ _ _ => nofun

/-- Consuming text has no faults. -/
theorem consumeTo_throws (stop : Nat) : Throws F (consumeTo env stop) :=
  .bind position_throws fun _ => .bind (advanceTo_throws _) fun _ => .pure _

/-- No fault of reading an argument is about a label without a place. -/
theorem readArg_throws (args : List Slot) : Throws Elsewhere (readArg p args) := by
  unfold readArg
  split
  · exact .bind (readInt_throws _) fun _ => .pure _
  · exact readObj_throws _
  · exact .throw elsewhere_valueKind

/-- No fault of an operation on the text is. -/
theorem perform_throws (args : List Slot) (native : Native) :
    Throws Elsewhere (perform env p args native) := by
  have consumes (stop : Nat) : Throws Elsewhere (some <$> consumeTo env stop) :=
    .bind (consumeTo_throws stop) fun _ => .pure _
  cases native with
  | matchRegex index =>
    refine .bind (.lookUp fun fault failed => ?_) fun regex => .bind position_throws fun pos => ?_
    · unfold Program.regexConst at failed
      split at failed <;> cases failed
      exact nofun
    · split
      · exact consumes _
      · exact .pure _
  | parseNumber kind =>
    refine .bind position_throws fun pos => ?_
    split
    · exact .bind (advanceTo_throws _) fun _ => .pure _
    · exact .pure _
  | takeChars =>
    refine .bind (readArg_throws args) fun v => ?_
    split
    · refine .bind position_throws fun pos => ?_
      split
      · exact consumes _
      · exact .pure _
    · exact .throw elsewhere_valueKind
  | foldCase =>
    refine .bind (readArg_throws args) fun v => ?_
    split
    · exact .pure _
    · exact .throw elsewhere_valueKind
  | userObject => exact .pure _

/-- No fault of storing a value is. -/
theorem storeValue_throws (dst : Option Slot) (v : Value) :
    Throws Elsewhere (storeValue p dst v) := by
  unfold storeValue
  split
  · exact .pure _
  · exact writeObj_throws _ _
  · split
    · exact writeInt_throws _ _
    · exact writeInt_throws _ _
    · exact writeInt_throws _ _
    · exact .throw nofun

/-- No fault of storing a product is. -/
theorem storeProduct_throws (dst : Option Slot) (product : Product) :
    Throws Elsewhere (storeProduct p dst product) := by
  unfold storeProduct
  split
  · exact .pure _
  · exact writeInt_throws _ _
  · exact writeObj_throws _ _
  all_goals exact .throw nofun

/-- No fault of reading the product of a run is. -/
theorem product_throws : Throws Elsewhere (product p) := by
  unfold product
  split
  · exact .pure _
  · exact .bind (readInt_throws _) fun _ => .pure _
  · exact .bind (takeObj_throws _) fun _ => .pure _

/-- No fault of adding to a list is. -/
theorem pushItem_throws (list : ObjSlot) (item : Value) :
    Throws Elsewhere (pushItem p list item) := by
  refine .bind (takeObj_throws list) fun held => ?_
  split
  · exact writeObj_throws _ _
  · exact .throw elsewhere_valueKind

/-- No fault of adding to a text is. -/
theorem pushText_throws (text : ObjSlot) (item : Value) :
    Throws Elsewhere (pushText p text item) := by
  refine .bind (takeObj_throws text) fun held => ?_
  split
  · split
    · exact writeObj_throws _ _
    · exact writeObj_throws _ _
    · exact .throw elsewhere_valueKind
  · exact .throw elsewhere_valueKind

/-- No fault of adding a character to a text is. -/
theorem pushChar_throws (text : ObjSlot) (c : Char) : Throws Elsewhere (pushChar p text c) := by
  refine .bind (takeObj_throws text) fun held => ?_
  split
  · exact writeObj_throws _ _
  · exact .throw elsewhere_valueKind

/-! ## Instructions -/

/-- Only going to a label can fail for want of its place. -/
theorem execute_throws (i : Instruction) : Throws (Blames p i) (execute env p i) := by
  have away {α : Type} {act : Exec α} (throws : Throws Elsewhere act) : Throws (Blames p i) act :=
    throws.mono fun fault elsewhere program l same => absurd same (elsewhere program l)
  have goes {target : Label} (named : i.target? = some target) :
      Throws (Blames p i) (goTo p target) :=
    .bind (.lookUp fun fault failed _ _ _ => ⟨target, named, failed⟩) fun _ => .pure _
  cases i with
  | jump target => exact goes rfl
  | jumpIf cond a b target =>
    have tests (x y : Int) : Throws (Blames p (.jumpIf cond a b target))
        (if cond.holds x y then goTo p target else pure .next) := by
      split
      · exact goes rfl
      · exact .pure _
    refine .bind (away (readInt_throws a)) fun x => ?_
    cases b with
    | slot slot => exact .bind (away (readInt_throws slot)) fun y => tests x y
    | imm n => exact tests x n
  | jumpIfObjEq a b target =>
    refine .bind (away (readObj_throws a)) fun x => .bind (away (readObj_throws b)) fun y => ?_
    split
    · exact goes rfl
    · exact .pure _
  | ret success =>
    cases success with
    | false => exact .pure _
    | true => exact .bind (away product_throws) fun _ => .pure _
  | loadImm dst n => exact (away (writeInt_throws dst n)).thenNext
  | addImm dst n =>
    refine Throws.thenNext (.bind (away (readInt_throws dst)) fun x => ?_)
    exact away (writeInt_throws _ _)
  | savePos dst =>
    exact Throws.thenNext (.bind position_throws fun pos => away (writeInt_throws _ _))
  | restorePos src =>
    refine Throws.thenNext (.bind (away (readPosition_throws src)) fun pos => ?_)
    exact away (seek_throws pos)
  | peekChar dst =>
    refine Throws.thenNext (.bind (fun _ _ _ => nofun) fun c => ?_)
    split
    · exact away (writeInt_throws _ _)
    · exact away (writeInt_throws _ _)
  | advance chars =>
    exact Throws.thenNext (.bind position_throws fun pos => advanceTo_throws _)
  | loadConst dst index =>
    refine Throws.thenNext (.bind (away (.lookUp fun fault failed => ?_)) fun v => ?_)
    · unfold Program.valueConst at failed
      split at failed <;> cases failed
      exact nofun
    · exact away (writeObj_throws _ _)
  | construct dst ty =>
    refine Throws.thenNext (away ?_)
    split
    · exact writeObj_throws _ _
    · exact .throw nofun
  | setField obj field src =>
    refine Throws.thenNext (away (.bind (takeObj_throws src) fun v => ?_))
    refine .bind (takeObj_throws obj) fun object => ?_
    split
    · exact writeObj_throws _ _
    · exact .throw nofun
  | box dst src kind =>
    refine Throws.thenNext (away (.bind (readInt_throws src) fun raw => ?_))
    split
    · exact writeObj_throws _ _
    · exact .throw nofun
  | listNew dst => exact (away (writeObj_throws _ _)).thenNext
  | listPush list item =>
    exact Throws.thenNext (away (.bind (takeObj_throws item) fun v => pushItem_throws _ _))
  | textNew dst => exact (away (writeObj_throws _ _)).thenNext
  | textPush text item =>
    exact Throws.thenNext (away (.bind (takeObj_throws item) fun v => pushText_throws _ _))
  | textPushChar text item =>
    refine Throws.thenNext (away (.bind (readInt_throws item) fun raw => ?_))
    split
    · exact pushChar_throws _ _
    · exact .throw nofun
  | slice dst start =>
    refine Throws.thenNext (away (.bind (readPosition_throws start) fun start => ?_))
    refine .bind position_throws fun pos => ?_
    split
    · exact writeObj_throws _ _
    · exact .throw nofun
  | invoke native args dst onFail =>
    refine .bind (away (perform_throws args native)) fun v => ?_
    split
    · exact (away (storeValue_throws _ _)).thenNext
    · exact goes rfl
  | call callee name dst onFail =>
    refine .bind (away (.lookUp fun fault failed => ?_)) fun h => .pure _
    unfold Program.callee at failed
    split at failed <;> cases failed
    exact nofun

/-! ## Runs -/

/-- Some instruction of the program names a label whose look-up fails with the fault. -/
def Blamed (p : Program) (fault : EngineFault) : Prop :=
  ∃ i ∈ p.code, ∃ label, i.target? = some label ∧ p.target label = .error fault

/-- A run that is at a call has its label from an instruction, and one that has ended with the fault
named the label, too. -/
def Turn.Named (p : Program) (fault : EngineFault) : Turn → Prop
  | .at _ _ _ => True
  | .calling _ _ _ onFail _ _ _ => ∃ i ∈ p.code, i.target? = some onFail
  | .ended ending => ending.1 = .error fault → Blamed p fault

variable {regs : Registers} {state : ParseState} {program : String} {l : Nat}

/-- A run that ends with such a fault in an instruction has named the label. -/
theorem named_performed (env : Environment) (p : Program) (pc : Nat) (regs : Registers)
    (state : ParseState) :
    (performed env p pc regs state).Named p (.unmarkedLabel program l) := by
  obtain ⟨cursor, book⟩ := state
  unfold performed
  dsimp only
  cases fetched : p.instruction pc with
  | error fault =>
    intro same
    cases same
    unfold Program.instruction at fetched
    split at fetched <;> cases fetched
  | ok i =>
    have member : i ∈ p.code := by
      unfold Program.instruction at fetched
      split at fetched <;> cases fetched
      exact Array.mem_of_getElem? ‹_›
    dsimp only
    cases ran : execute env p i ⟨regs, cursor⟩ with
    | error fault after =>
      intro same
      cases same
      obtain ⟨label, named, failed⟩ := execute_throws i _ _ _ ran program l rfl
      exact ⟨i, member, label, named, failed⟩
    | ok control after =>
      cases control with
      | next => trivial
      | goto pc => trivial
      | ret outcome => exact nofun
      | call callee name dst onFail =>
        obtain ⟨index, rfl, -⟩ := call_of_execute ran
        exact ⟨_, member, rfl⟩

/-- So has a run that ends with it behind a call. -/
theorem named_resumed {pc : Nat} {regs : Registers} {dst : Option Slot} {onFail : Label}
    (named : ∃ i ∈ p.code, i.target? = some onFail) (outcome : Option Product)
    (state : ParseState) :
    (resumed p pc regs dst onFail outcome state).Named p (.unmarkedLabel program l) := by
  obtain ⟨cursor, book⟩ := state
  unfold resumed
  cases outcome with
  | none =>
    dsimp only
    cases looked : p.target onFail with
    | ok pc => trivial
    | error fault =>
      intro same
      cases same
      obtain ⟨i, member, named⟩ := named
      exact ⟨i, member, onFail, named, looked⟩
  | some product =>
    dsimp only
    cases stored : storeProduct p dst product ⟨regs, cursor⟩ with
    | ok _ after => trivial
    | error fault after =>
      intro same
      cases same
      exact absurd rfl (storeProduct_throws dst product _ _ _ stored program l)

/-- Where a run faults for want of a place, a call below it did, or the program names a label that
has none. -/
theorem blamed_of_runs {calls : CallRelation} {turn : Turn} {state' : ParseState}
    (runs : Runs env calls p turn (.error (.unmarkedLabel program l), state'))
    (named : turn.Named p (.unmarkedLabel program l)) :
    (∃ h name s s', calls h name s (.error (.unmarkedLabel program l), s')) ∨
      Blamed p (.unmarkedLabel program l) := by
  generalize same : (Except.error (EngineFault.unmarkedLabel program l), state') = ending at runs
  induction runs with
  | step _ ih => exact ih (named_performed env p _ _ _) same
  | faulted call =>
    cases same
    exact .inl ⟨_, _, _, _, call⟩
  | called _ _ ih => exact ih (named_resumed named _ _) same
  | done =>
    subst same
    exact .inr (named rfl)

end Packrat.Machine
