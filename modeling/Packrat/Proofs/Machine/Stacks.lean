import Packrat.Proofs.Machine.Instruction
import Packrat.Proofs.Text.Reading

/-!
# Registers on shared stacks

The registers of all runs can be kept on two stacks, one for integers and one for objects: the
registers of a run lie above those of the runs that wait for it, and its register `i` is the place
`i` above its base. A register number is compared with the number of registers of the program only,
never with the size of a stack, so it has to be shown that no access misses the stacks, and that
none meets the registers of another run.

* `Base`: where the registers of a run begin. `Trouble`: a fault, or an access that misses a stack.
* `Stacks.execute`: one instruction, with registers on the stacks.
* `Framed`: with registers on the stacks, an action does what it does with registers of its own; it
  leaves what lies below as it is, and it keeps to the boundaries of the text.

Main statements: `framed_execute` and `framed_storeProduct`.
-/

namespace Packrat.Machine

/-- Where the registers of a run begin on the stacks. -/
structure Base where
  /-- Its integer registers. -/
  ints : Nat
  /-- Its object registers. -/
  objs : Nat

/-- What stops an action on the stacks. -/
inductive Trouble where
  /-- A fault. -/
  | fault (fault : EngineFault)
  /-- An access to a place that a stack does not have. -/
  | outside

/-- Actions on the stacks and the cursor. -/
abbrev StackExec := EStateM Trouble Local

namespace Stacks

/-! ## Registers -/

/-- An action that leaves the registers alone. -/
def lift {α : Type} (act : Exec α) : StackExec α := fun s =>
  match act s with
  | .ok a s => .ok a s
  | .error fault s => .error (.fault fault) s

variable (b : Base) (p : Program)

/-- The content of an integer register. -/
def readInt (slot : IntSlot) : StackExec Int := fun s =>
  if slot.index < p.intSlots then
    match s.regs.ints[b.ints + slot.index]? with
    | some n => .ok n s
    | none => .error .outside s
  else .error (.fault (.slotOutOfRange p.name "int" slot.index p.intSlots)) s

/-- Set an integer register. -/
def writeInt (slot : IntSlot) (n : Int) : StackExec Unit := fun ⟨⟨ints, objs⟩, cursor⟩ =>
  if slot.index < p.intSlots then
    if b.ints + slot.index < ints.size then
      .ok () ⟨⟨ints.setIfInBounds (b.ints + slot.index) n, objs⟩, cursor⟩
    else .error .outside ⟨⟨ints, objs⟩, cursor⟩
  else .error (.fault (.slotOutOfRange p.name "int" slot.index p.intSlots)) ⟨⟨ints, objs⟩, cursor⟩

/-- The content of an object register. -/
def readObj (slot : ObjSlot) : StackExec Value := fun s =>
  if slot.index < p.objSlots then
    match s.regs.objs[b.objs + slot.index]? with
    | some v => .ok v s
    | none => .error .outside s
  else .error (.fault (.slotOutOfRange p.name "obj" slot.index p.objSlots)) s

/-- Set an object register. -/
def writeObj (slot : ObjSlot) (v : Value) : StackExec Unit := fun ⟨⟨ints, objs⟩, cursor⟩ =>
  if slot.index < p.objSlots then
    if b.objs + slot.index < objs.size then
      .ok () ⟨⟨ints, objs.setIfInBounds (b.objs + slot.index) v⟩, cursor⟩
    else .error .outside ⟨⟨ints, objs⟩, cursor⟩
  else .error (.fault (.slotOutOfRange p.name "obj" slot.index p.objSlots)) ⟨⟨ints, objs⟩, cursor⟩

/-- Move the content out of an object register, leaving `null`. -/
def takeObj (slot : ObjSlot) : StackExec Value := fun ⟨⟨ints, objs⟩, cursor⟩ =>
  if slot.index < p.objSlots then
    match objs[b.objs + slot.index]? with
    | some v => .ok v ⟨⟨ints, objs.setIfInBounds (b.objs + slot.index) .null⟩, cursor⟩
    | none => .error .outside ⟨⟨ints, objs⟩, cursor⟩
  else .error (.fault (.slotOutOfRange p.name "obj" slot.index p.objSlots)) ⟨⟨ints, objs⟩, cursor⟩

/-- The position kept in a register. -/
def readPosition (slot : IntSlot) : StackExec Nat := do
  let raw ← readInt b p slot
  if raw < 0 then throw (.fault (.badPosition p.name raw)) else return raw.toNat

/-! ## Operations, results and lists -/

/-- The content of an operation's argument, as a value. -/
def readArg (args : List Slot) : StackExec Value := do
  match args with
  | .int slot :: _ => return .int (← readInt b p slot)
  | .obj slot :: _ => readObj b p slot
  | [] => throw (.fault (.valueKind p.name "argument" "nothing"))

/-- Perform an operation on the text. -/
def perform (env : Environment) (args : List Slot) : Native → StackExec (Option Value)
  | .matchRegex index => do
    let regex ← lift (lookUp (p.regexConst index))
    match regex.matchAt env.text (← lift position) with
    | some stop => some <$> lift (consumeTo env stop)
    | none => return none
  | .parseNumber kind => do
    let pos ← lift position
    match Number.scanNumber kind (Text.runAt Number.isLiteralChar env.text pos) with
    | some (length, v) =>
      lift (advanceTo (pos + length))
      return some v
    | none => return none
  | .takeChars => do
    match ← readArg b p args with
    | .int n =>
      let count := if n < 0 then UInt64.size - 1 else n.toNat
      match Text.skipExactly? env.text (← lift position) count with
      | some stop => some <$> lift (consumeTo env stop)
      | none => return none
    | other => throw (.fault (.valueKind p.name "int" other.typeName))
  | .foldCase => do
    match ← readArg b p args with
    | .str text => return some (.str (Text.lowerCase text))
    | other => throw (.fault (.valueKind p.name "str" other.typeName))
  | .userObject => return some env.user

/-- Store the value that an operation produced. -/
def storeValue (dst : Option Slot) (v : Value) : StackExec Unit :=
  match dst with
  | none => pure ()
  | some (.obj slot) => writeObj b p slot v
  | some (.int slot) =>
    match v with
    | .int n => writeInt b p slot n
    | .char c => writeInt b p slot c.toNat
    | .bool c => writeInt b p slot (if c then 1 else 0)
    | other => throw (.fault (.scalarExpected p.name other.typeName))

/-- Store the product of a call. -/
def storeProduct (dst : Option Slot) (product : Product) : StackExec Unit :=
  match dst, product with
  | none, _ => pure ()
  | some (.int slot), .int raw => writeInt b p slot raw
  | some (.obj slot), .obj v => writeObj b p slot v
  | some (.int _), .obj v => throw (.fault (.scalarExpected p.name v.typeName))
  | some (.int _), .void => throw (.fault (.scalarExpected p.name "nothing"))
  | some (.obj _), .int _ => throw (.fault (.valueKind p.name "object" "int"))
  | some (.obj _), .void => throw (.fault (.valueKind p.name "object" "nothing"))

/-- The product of a successful run. -/
def product : StackExec Product := do
  match p.result with
  | none => return .void
  | some (.int slot) => return .int (← readInt b p slot)
  | some (.obj slot) => return .obj (← takeObj b p slot)

/-- Append an item to the list in a register. -/
def pushItem (list : ObjSlot) (item : Value) : StackExec Unit := do
  match ← takeObj b p list with
  | .list items => writeObj b p list (.list (items.push item))
  | other => throw (.fault (.valueKind p.name "list" other.typeName))

/-- Append a text or a character to the text in a register. -/
def pushText (text : ObjSlot) (item : Value) : StackExec Unit := do
  match ← takeObj b p text with
  | .str s =>
    match item with
    | .str t => writeObj b p text (.str (s ++ t))
    | .char c => writeObj b p text (.str (s.push c))
    | other => throw (.fault (.valueKind p.name "str" other.typeName))
  | _ => throw (.fault (.valueKind p.name "str" "non-text accumulator"))

/-- Append a character to the text in a register. -/
def pushChar (text : ObjSlot) (c : Char) : StackExec Unit := do
  match ← takeObj b p text with
  | .str s => writeObj b p text (.str (s.push c))
  | other => throw (.fault (.valueKind p.name "str" other.typeName))

/-! ## Instructions -/

/-- Go on with the next instruction after an action. -/
def thenNext (act : StackExec Unit) : StackExec Control := do
  act
  return .next

/-- Do what one instruction says. -/
def execute (env : Environment) : Instruction → StackExec Control
  | .jump target => lift (goTo p target)
  | .jumpIf cond x y target => do
    let x ← readInt b p x
    let y ← match y with
      | .slot slot => readInt b p slot
      | .imm n => pure n
    if cond.holds x y then lift (goTo p target) else return .next
  | .jumpIfObjEq x y target => do
    let x ← readObj b p x
    let y ← readObj b p y
    if x == y then lift (goTo p target) else return .next
  | .ret false => return .ret none
  | .ret true => do
    let result ← product b p
    return .ret (some result)
  | .loadImm dst n => thenNext (writeInt b p dst n)
  | .addImm dst n => thenNext do
    let current ← readInt b p dst
    writeInt b p dst (Word.wrap (current + n))
  | .savePos dst => thenNext do
    let pos ← lift position
    writeInt b p dst (Word.clamp pos)
  | .restorePos src => thenNext do
    let pos ← readPosition b p src
    lift (seek env p pos)
  | .peekChar dst => thenNext do
    match ← lift (peekChar env) with
    | some c => writeInt b p dst c.toNat
    | none => writeInt b p dst (-1)
  | .advance chars => thenNext do
    let pos ← lift position
    lift (advanceTo (Text.skip env.text pos chars))
  | .loadConst dst index => thenNext do
    let v ← lift (lookUp (p.valueConst index))
    writeObj b p dst v
  | .construct dst ty => thenNext do
    match env.model.construct ty with
    | some v => writeObj b p dst v
    | none => throw (.fault (.constructFailed p.name ty))
  | .setField obj field src => thenNext do
    let v ← takeObj b p src
    let object ← takeObj b p obj
    match env.model.writeSlot object field v with
    | .ok object => writeObj b p obj object
    | .error e => throw (.fault (.slotWrite e))
  | .box dst src kind => thenNext do
    let raw ← readInt b p src
    match kind.box? raw with
    | some v => writeObj b p dst v
    | none => throw (.fault (invalidCode p raw))
  | .listNew dst => thenNext (writeObj b p dst (.list #[]))
  | .listPush list item => thenNext do
    let item ← takeObj b p item
    pushItem b p list item
  | .textNew dst => thenNext (writeObj b p dst (.str ""))
  | .textPush text item => thenNext do
    let item ← takeObj b p item
    pushText b p text item
  | .textPushChar text item => thenNext do
    let raw ← readInt b p item
    match charOfCode? raw with
    | some c => pushChar b p text c
    | none => throw (.fault (invalidCode p raw))
  | .slice dst start => thenNext do
    let start ← readPosition b p start
    match Text.slice? env.text start (← lift position) with
    | some text => writeObj b p dst (.str text)
    | none => throw (.fault (.badPosition p.name (Word.clamp start)))
  | .invoke native args dst onFail => do
    match ← perform b p env args native with
    | some v => thenNext (storeValue b p dst v)
    | none => lift (goTo p onFail)
  | .call callee name dst onFail => do
    let callee ← lift (lookUp (p.callee callee))
    return .call callee name dst onFail

end Stacks

/-! ## Actions on the stacks and on registers of one's own -/

/-- The stacks with registers on top. -/
def Registers.onTop (below regs : Registers) : Registers :=
  ⟨below.ints ++ regs.ints, below.objs ++ regs.objs⟩

/-- Where registers on top of the stacks begin. -/
def Registers.base (below : Registers) : Base := ⟨below.ints.size, below.objs.size⟩

/-- The end of an action on the stacks is that of one on registers of its own: the same, with the
registers on top of what was below them. Both leave the cursor on a boundary. -/
inductive Above {α : Type} (env : Environment) (p : Program) (below : Registers) :
    EStateM.Result Trouble Local α → EStateM.Result EngineFault Local α → Prop where
  /-- Both go on. -/
  | ok (a : α) {regs : Registers} {cursor : Cursor} (fits : regs.Fits p)
      (placed : Text.isBoundary env.text cursor.pos = true) :
      Above env p below (.ok a ⟨below.onTop regs, cursor⟩) (.ok a ⟨regs, cursor⟩)
  /-- Both have the same fault. -/
  | error (fault : EngineFault) {regs : Registers} {cursor : Cursor} (fits : regs.Fits p)
      (placed : Text.isBoundary env.text cursor.pos = true) :
      Above env p below (.error (.fault fault) ⟨below.onTop regs, cursor⟩)
        (.error fault ⟨regs, cursor⟩)

/-- What goes on with registers of its own goes on on the stacks. -/
theorem Above.of_ok {α : Type} {env : Environment} {p : Program} {below regs : Registers}
    {cursor : Cursor} {a : α} {result : EStateM.Result Trouble Local α}
    (ends : Above env p below result (.ok a ⟨regs, cursor⟩)) :
    result = .ok a ⟨below.onTop regs, cursor⟩ ∧ regs.Fits p ∧
      Text.isBoundary env.text cursor.pos = true := by
  cases ends with
  | ok a fits placed => exact ⟨rfl, fits, placed⟩

/-- A fault with registers of its own is one on the stacks, and nothing worse. -/
theorem Above.of_error {α : Type} {env : Environment} {p : Program} {below regs : Registers}
    {cursor : Cursor} {fault : EngineFault} {result : EStateM.Result Trouble Local α}
    (ends : Above env p below result (.error fault ⟨regs, cursor⟩)) :
    result = .error (.fault fault) ⟨below.onTop regs, cursor⟩ ∧ regs.Fits p ∧
      Text.isBoundary env.text cursor.pos = true := by
  cases ends with
  | error fault fits placed => exact ⟨rfl, fits, placed⟩

/-- An action on registers on top of the stacks does what the one on registers of its own does. -/
def Framed {α : Type} (env : Environment) (p : Program) (below : Registers) (act : StackExec α)
    (own : Exec α) : Prop :=
  ∀ (regs : Registers) (cursor : Cursor), regs.Fits p →
    Text.isBoundary env.text cursor.pos = true →
    Above env p below (act ⟨below.onTop regs, cursor⟩) (own ⟨regs, cursor⟩)

section

variable {α β : Type} {env : Environment} {p : Program} {below : Registers}

/-- Returning something is the same on the shared stacks and on own registers. -/
theorem Framed.pure (a : α) : Framed env p below (pure a) (pure a) :=
  fun _ _ fits placed => .ok a fits placed

/-- Failing is the same on both. -/
theorem Framed.throw (fault : EngineFault) :
    Framed env p below (throw (.fault fault) : StackExec α) (throw fault) :=
  fun _ _ fits placed => .error fault fits placed

/-- One action after another. -/
theorem Framed.bind {act : StackExec α} {own : Exec α} {go : α → StackExec β} {go' : α → Exec β}
    (first : Framed env p below act own) (second : ∀ a, Framed env p below (go a) (go' a)) :
    Framed env p below (act >>= go) (own >>= go') := by
  intro regs cursor fits placed
  show Above env p below (EStateM.bind act go _) (EStateM.bind own go' _)
  unfold EStateM.bind
  have ends := first regs cursor fits placed
  generalize act ⟨below.onTop regs, cursor⟩ = result at ends ⊢
  generalize own ⟨regs, cursor⟩ = result' at ends ⊢
  cases ends with
  | ok a fits placed => exact second a _ _ fits placed
  | error fault fits placed => exact .error fault fits placed

/-- An action that has to do with the cursor only. -/
theorem Framed.lift {own : Exec α}
    (apart : ∀ cursor : Cursor, Text.isBoundary env.text cursor.pos = true →
      (∃ a cursor', (∀ regs : Registers, own ⟨regs, cursor⟩ = .ok a ⟨regs, cursor'⟩) ∧
        Text.isBoundary env.text cursor'.pos = true) ∨
      ∃ fault, ∀ regs : Registers, own ⟨regs, cursor⟩ = .error fault ⟨regs, cursor⟩) :
    Framed env p below (Stacks.lift own) own := by
  intro regs cursor fits placed
  rcases apart cursor placed with ⟨a, cursor', does, placed'⟩ | ⟨fault, does⟩
  · rw [Stacks.lift, does, does]
    exact .ok a fits placed'
  · rw [Stacks.lift, does, does]
    exact .error fault fits placed

/-! ## Registers -/

/-- The integers of a run begin where those of the runs below end. -/
@[simp] theorem base_ints : below.base.ints = below.ints.size := rfl

/-- The objects of a run begin where those of the runs below end. -/
@[simp] theorem base_objs : below.base.objs = below.objs.size := rfl

/-- The integers of a run lie on top of those of the runs below. -/
@[simp] theorem onTop_ints (regs : Registers) :
    (below.onTop regs).ints = below.ints ++ regs.ints := rfl

/-- The objects of a run lie on top of those of the runs below. -/
@[simp] theorem onTop_objs (regs : Registers) :
    (below.onTop regs).objs = below.objs ++ regs.objs := rfl

/-- A place above what lies below. -/
theorem getElem?_above {α : Type} (below own : Array α) (i : Nat) :
    (below ++ own)[below.size + i]? = own[i]? := by
  rw [Array.getElem?_append_right (Nat.le_add_right _ _), Nat.add_sub_cancel_left]

/-- Setting a place above what lies below. -/
theorem setIfInBounds_above {α : Type} (below own : Array α) (i : Nat) (a : α) :
    (below ++ own).setIfInBounds (below.size + i) a = below ++ own.setIfInBounds i a := by
  rw [Array.setIfInBounds_append_right (Nat.le_add_right _ _), Nat.add_sub_cancel_left]

/-- Reading an integer is the same on both. -/
theorem framed_readInt (slot : IntSlot) :
    Framed env p below (Stacks.readInt below.base p slot) (readInt p slot) := by
  intro regs cursor fits placed
  simp only [Stacks.readInt, readInt, base_ints, onTop_ints, getElem?_above]
  by_cases inside : slot.index < p.intSlots
  · rw [if_pos inside]
    rw [← fits.ints] at inside
    rw [Array.getElem?_eq_getElem inside]
    exact .ok _ fits placed
  · rw [if_neg inside]
    rw [← fits.ints] at inside
    rw [Array.getElem?_eq_none (Nat.le_of_not_lt inside)]
    exact .error _ fits placed

/-- Writing an integer is the same on both, and leaves the runs below alone. -/
theorem framed_writeInt (slot : IntSlot) (n : Int) :
    Framed env p below (Stacks.writeInt below.base p slot n) (writeInt p slot n) := by
  intro regs cursor fits placed
  obtain ⟨ints, objs⟩ := regs
  simp only [Stacks.writeInt, writeInt, base_ints, Registers.onTop, setIfInBounds_above,
    Array.size_append, Nat.add_lt_add_iff_left]
  have size : ints.size = p.intSlots := fits.ints
  by_cases inside : slot.index < p.intSlots
  · rw [if_pos inside, size, if_pos inside, if_pos inside]
    exact .ok () (fits.setInt slot n) placed
  · rw [if_neg inside, size, if_neg inside]
    exact .error _ fits placed

/-- Reading an object is the same on both. -/
theorem framed_readObj (slot : ObjSlot) :
    Framed env p below (Stacks.readObj below.base p slot) (readObj p slot) := by
  intro regs cursor fits placed
  simp only [Stacks.readObj, readObj, base_objs, onTop_objs, getElem?_above]
  by_cases inside : slot.index < p.objSlots
  · rw [if_pos inside]
    rw [← fits.objs] at inside
    rw [Array.getElem?_eq_getElem inside]
    exact .ok _ fits placed
  · rw [if_neg inside]
    rw [← fits.objs] at inside
    rw [Array.getElem?_eq_none (Nat.le_of_not_lt inside)]
    exact .error _ fits placed

/-- Writing an object is the same on both, and leaves the runs below alone. -/
theorem framed_writeObj (slot : ObjSlot) (v : Value) :
    Framed env p below (Stacks.writeObj below.base p slot v) (writeObj p slot v) := by
  intro regs cursor fits placed
  obtain ⟨ints, objs⟩ := regs
  simp only [Stacks.writeObj, writeObj, base_objs, Registers.onTop, setIfInBounds_above,
    Array.size_append, Nat.add_lt_add_iff_left]
  have size : objs.size = p.objSlots := fits.objs
  by_cases inside : slot.index < p.objSlots
  · rw [if_pos inside, size, if_pos inside, if_pos inside]
    exact .ok () (fits.setObj slot v) placed
  · rw [if_neg inside, size, if_neg inside]
    exact .error _ fits placed

/-- Taking an object is the same on both, and leaves the runs below alone. -/
theorem framed_takeObj (slot : ObjSlot) :
    Framed env p below (Stacks.takeObj below.base p slot) (takeObj p slot) := by
  intro regs cursor fits placed
  obtain ⟨ints, objs⟩ := regs
  simp only [Stacks.takeObj, takeObj, base_objs, Registers.onTop, getElem?_above,
    setIfInBounds_above]
  by_cases inside : slot.index < p.objSlots
  · have inside' : slot.index < objs.size := Nat.lt_of_lt_of_eq inside fits.objs.symm
    rw [if_pos inside, Array.getElem?_eq_getElem inside']
    exact .ok _ (fits.setObj slot .null) placed
  · have outside : objs.size ≤ slot.index := by
      rw [fits.objs.symm] at inside
      exact Nat.le_of_not_lt inside
    rw [if_neg inside, Array.getElem?_eq_none outside]
    exact .error _ fits placed

/-! ## The cursor -/

/-- A look-up is the same on both. -/
theorem framed_lookUp (found : Except EngineFault α) :
    Framed env p below (Stacks.lift (lookUp found)) (lookUp found) := by
  apply Framed.lift
  intro cursor placed
  cases found with
  | ok a => exact .inl ⟨a, cursor, fun _ => rfl, placed⟩
  | error fault => exact .inr ⟨fault, fun _ => rfl⟩

/-- Going to a label is the same on both. -/
theorem framed_goTo (label : Label) :
    Framed env p below (Stacks.lift (goTo p label)) (goTo p label) := by
  apply Framed.lift
  intro cursor placed
  unfold goTo
  cases p.target label with
  | ok pc => exact .inl ⟨.goto pc, cursor, fun _ => rfl, placed⟩
  | error fault => exact .inr ⟨fault, fun _ => rfl⟩

/-- Looking at the next character is the same on both. -/
theorem framed_peekChar : Framed env p below (Stacks.lift (peekChar env)) (peekChar env) := by
  apply Framed.lift
  intro cursor placed
  exact .inl ⟨_, _, fun _ => rfl, placed⟩

/-- Going to a place is the same on both. -/
theorem framed_seek (pos : Nat) :
    Framed env p below (Stacks.lift (seek env p pos)) (seek env p pos) := by
  apply Framed.lift
  intro cursor placed
  unfold seek
  by_cases boundary : Text.isBoundary env.text pos = true
  · simp only [if_pos boundary]
    exact .inl ⟨(), { cursor with pos }, fun _ => rfl, boundary⟩
  · simp only [if_neg boundary]
    exact .inr ⟨_, fun _ => rfl⟩

/-- Going to a boundary. -/
theorem framed_advanceTo {stop : Nat} (boundary : Text.isBoundary env.text stop = true) :
    Framed env p below (Stacks.lift (advanceTo stop)) (advanceTo stop) := by
  apply Framed.lift
  intro cursor placed
  exact .inl ⟨(), _, fun _ => rfl, boundary⟩

/-- Consuming text up to a boundary is the same on both. -/
theorem framed_consumeTo {stop : Nat} (boundary : Text.isBoundary env.text stop = true) :
    Framed env p below (some <$> Stacks.lift (consumeTo env stop))
      (some <$> consumeTo env stop) := by
  have consumed : Framed env p below (Stacks.lift (consumeTo env stop)) (consumeTo env stop) := by
    apply Framed.lift
    intro cursor placed
    exact .inl ⟨.str ((Text.slice? env.text cursor.pos stop).getD ""),
      ⟨stop, max cursor.furthest stop⟩, fun _ => rfl, boundary⟩
  show Framed env p below (Stacks.lift (consumeTo env stop) >>= fun v => pure (some v))
    (consumeTo env stop >>= fun v => pure (some v))
  exact consumed.bind fun v => .pure (some v)

/-- What comes after a look at the position, which is a boundary. -/
theorem Framed.position {go : Nat → StackExec α} {go' : Nat → Exec α}
    (second : ∀ pos, Text.isBoundary env.text pos = true → Framed env p below (go pos) (go' pos)) :
    Framed env p below (Stacks.lift Machine.position >>= go) (Machine.position >>= go') :=
  fun regs cursor fits placed => second cursor.pos placed regs cursor fits placed

/-- Reading a position is the same on both. -/
theorem framed_readPosition (slot : IntSlot) :
    Framed env p below (Stacks.readPosition below.base p slot) (readPosition p slot) := by
  refine .bind (framed_readInt slot) fun raw => ?_
  split
  · exact .throw _
  · exact .pure _

/-! ## Operations -/

/-- Reading an argument is the same on both. -/
theorem framed_readArg (args : List Slot) :
    Framed env p below (Stacks.readArg below.base p args) (readArg p args) := by
  unfold Stacks.readArg readArg
  split
  · exact .bind (framed_readInt _) fun _ => .pure _
  · exact framed_readObj _
  · exact .throw _

/-- An operation on the text is the same on both. -/
theorem framed_perform (args : List Slot) (native : Native) :
    Framed env p below (Stacks.perform below.base p env args native)
      (perform env p args native) := by
  cases native with
  | matchRegex index =>
    refine .bind (framed_lookUp _) fun regex => .position fun pos placed => ?_
    cases ended : regex.matchAt env.text pos with
    | none => exact .pure _
    | some stop =>
      have within := Regex.within_of_matchAt ended
      exact framed_consumeTo (within.isBoundary placed)
  | parseNumber kind =>
    refine .position fun pos placed => ?_
    cases scanned : Number.scanNumber kind (Text.runAt Number.isLiteralChar env.text pos) with
    | none => exact .pure _
    | some literal =>
      obtain ⟨length, v⟩ := literal
      rw [Text.runAt_eq_takeWhile] at scanned
      have within := Number.within_of_scanNumber scanned
      exact .bind (framed_advanceTo (within.isBoundary placed)) fun _ => .pure _
  | takeChars =>
    refine .bind (framed_readArg args) fun arg => ?_
    cases arg with
    | int n =>
      refine .position fun pos placed => ?_
      cases passed : Text.skipExactly? env.text pos
        (if n < 0 then UInt64.size - 1 else n.toNat) with
      | none => exact .pure _
      | some stop =>
        have within := Text.within_of_skipExactly? passed
        exact framed_consumeTo (within.isBoundary placed)
    | _ => exact .throw _
  | foldCase =>
    refine .bind (framed_readArg args) fun arg => ?_
    cases arg with
    | str text => exact .pure _
    | _ => exact .throw _
  | userObject => exact .pure _

/-- Storing a value is the same on both, and leaves the runs below alone. -/
theorem framed_storeValue (dst : Option Slot) (v : Value) :
    Framed env p below (Stacks.storeValue below.base p dst v) (storeValue p dst v) := by
  cases dst with
  | none => exact .pure ()
  | some slot =>
    cases slot with
    | obj slot => exact framed_writeObj slot v
    | int slot =>
      cases v with
      | int n => exact framed_writeInt slot n
      | char c => exact framed_writeInt slot c.toNat
      | bool c => exact framed_writeInt slot (if c then 1 else 0)
      | _ => exact .throw _

/-- The product of a call is stored in a register of the run that called. -/
theorem framed_storeProduct (dst : Option Slot) (product : Product) :
    Framed env p below (Stacks.storeProduct below.base p dst product)
      (storeProduct p dst product) := by
  cases dst with
  | none => exact .pure ()
  | some slot =>
    cases slot with
    | int slot =>
      cases product with
      | int raw => exact framed_writeInt slot raw
      | void => exact .throw _
      | obj v => exact .throw _
    | obj slot =>
      cases product with
      | obj v => exact framed_writeObj slot v
      | void => exact .throw _
      | int raw => exact .throw _

/-- The product of a run is the same on both. -/
theorem framed_product : Framed env p below (Stacks.product below.base p) (product p) := by
  unfold Stacks.product product
  cases p.result with
  | none => exact .pure _
  | some slot =>
    cases slot with
    | int slot => exact .bind (framed_readInt slot) fun raw => .pure (Product.int raw)
    | obj slot => exact .bind (framed_takeObj slot) fun v => .pure (Product.obj v)

/-- Adding to a list is the same on both, and leaves the runs below alone. -/
theorem framed_pushItem (list : ObjSlot) (item : Value) :
    Framed env p below (Stacks.pushItem below.base p list item) (pushItem p list item) := by
  refine .bind (framed_takeObj list) fun held => ?_
  cases held with
  | list items => exact framed_writeObj list _
  | _ => exact .throw _

/-- Adding to a text is the same on both, and leaves the runs below alone. -/
theorem framed_pushText (text : ObjSlot) (item : Value) :
    Framed env p below (Stacks.pushText below.base p text item) (pushText p text item) := by
  refine .bind (framed_takeObj text) fun held => ?_
  cases held with
  | str s =>
    cases item with
    | str t => exact framed_writeObj text _
    | char c => exact framed_writeObj text _
    | _ => exact .throw _
  | _ => exact .throw _

/-- Adding a character to a text is the same on both. -/
theorem framed_pushChar (text : ObjSlot) (c : Char) :
    Framed env p below (Stacks.pushChar below.base p text c) (pushChar p text c) := by
  refine .bind (framed_takeObj text) fun held => ?_
  cases held with
  | str s => exact framed_writeObj text _
  | _ => exact .throw _

/-! ## Instructions -/

/-- Going on to the next instruction is the same on both if the action before it is. -/
theorem framed_thenNext {act : StackExec Unit} {own : Exec Unit}
    (framed : Framed env p below act own) :
    Framed env p below (Stacks.thenNext act) (thenNext own) :=
  framed.bind fun _ => .pure _

/-- An instruction with registers on top of the stacks does what it does with registers of its own:
it misses no stack, and what lies below stays as it is. -/
theorem framed_execute (i : Instruction) :
    Framed env p below (Stacks.execute below.base p env i) (execute env p i) := by
  cases i with
  | jump target => exact framed_goTo target
  | jumpIf cond a b target =>
    refine .bind (framed_readInt a) fun x => ?_
    have decide (y : Int) : Framed env p below
        (if cond.holds x y then Stacks.lift (goTo p target) else pure Control.next)
        (if cond.holds x y then goTo p target else pure Control.next) := by
      by_cases holds : cond.holds x y = true
      · rw [if_pos holds, if_pos holds]
        exact framed_goTo target
      · rw [if_neg holds, if_neg holds]
        exact .pure _
    cases b with
    | slot slot => exact .bind (framed_readInt slot) decide
    | imm n => exact .bind (.pure n) decide
  | jumpIfObjEq a b target =>
    refine .bind (framed_readObj a) fun x => .bind (framed_readObj b) fun y => ?_
    by_cases same : (x == y) = true
    · rw [if_pos same, if_pos same]
      exact framed_goTo target
    · rw [if_neg same, if_neg same]
      exact .pure _
  | ret success =>
    cases success with
    | false => exact .pure _
    | true => exact .bind framed_product fun _ => .pure _
  | loadImm dst n => exact framed_thenNext (framed_writeInt dst n)
  | addImm dst n =>
    exact framed_thenNext (.bind (framed_readInt dst) fun _ => framed_writeInt dst _)
  | savePos dst =>
    exact framed_thenNext (.position fun _ _ => framed_writeInt dst _)
  | restorePos src =>
    exact framed_thenNext (.bind (framed_readPosition src) fun pos => framed_seek pos)
  | peekChar dst =>
    refine framed_thenNext (.bind framed_peekChar fun c => ?_)
    cases c with
    | none => exact framed_writeInt dst _
    | some c => exact framed_writeInt dst _
  | advance chars =>
    refine framed_thenNext (.position fun pos placed => ?_)
    exact framed_advanceTo ((Text.within_skip env.text pos chars).isBoundary placed)
  | loadConst dst index =>
    exact framed_thenNext (.bind (framed_lookUp _) fun v => framed_writeObj dst v)
  | construct dst ty =>
    refine framed_thenNext ?_
    cases env.model.construct ty with
    | none => exact .throw _
    | some v => exact framed_writeObj dst v
  | setField obj field src =>
    refine framed_thenNext (.bind (framed_takeObj src) fun v => .bind (framed_takeObj obj)
      fun object => ?_)
    cases env.model.writeSlot object field v with
    | error e => exact .throw _
    | ok object => exact framed_writeObj obj object
  | box dst src kind =>
    refine framed_thenNext (.bind (framed_readInt src) fun raw => ?_)
    cases kind.box? raw with
    | none => exact .throw _
    | some v => exact framed_writeObj dst v
  | listNew dst => exact framed_thenNext (framed_writeObj dst _)
  | listPush list item =>
    exact framed_thenNext (.bind (framed_takeObj item) fun v => framed_pushItem list v)
  | textNew dst => exact framed_thenNext (framed_writeObj dst _)
  | textPush text item =>
    exact framed_thenNext (.bind (framed_takeObj item) fun v => framed_pushText text v)
  | textPushChar text item =>
    refine framed_thenNext (.bind (framed_readInt item) fun raw => ?_)
    cases charOfCode? raw with
    | none => exact .throw _
    | some c => exact framed_pushChar text c
  | slice dst start =>
    refine framed_thenNext (.bind (framed_readPosition start) fun start => .position
      fun pos _ => ?_)
    cases Text.slice? env.text start pos with
    | none => exact .throw _
    | some text => exact framed_writeObj dst _
  | invoke native args dst onFail =>
    refine .bind (framed_perform args native) fun result => ?_
    cases result with
    | none => exact framed_goTo onFail
    | some v => exact framed_thenNext (framed_storeValue dst v)
  | call callee name dst onFail => exact .bind (framed_lookUp _) fun _ => .pure _

end

end Packrat.Machine
