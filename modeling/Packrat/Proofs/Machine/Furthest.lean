import Packrat.Proofs.Machine.Frame

/-!
# How far the text was examined

No instruction looks at how far the text was examined. Each raises it to some place that depends on
the registers and the position only, and does the same otherwise, whatever it was before.

* `Uniform`: an action does so.

Main statement: `execute_uniform`.
-/

namespace Packrat.Machine

/-- What came of an action, had the text been examined up to a place. -/
def examinedTo {α : Type} (furthest : Nat) :
    EStateM.Result EngineFault Local α → EStateM.Result EngineFault Local α
  | .ok a ⟨regs, ⟨pos, _⟩⟩ => .ok a ⟨regs, ⟨pos, furthest⟩⟩
  | .error fault ⟨regs, ⟨pos, _⟩⟩ => .error fault ⟨regs, ⟨pos, furthest⟩⟩

/-- An action raises how far the text was examined, and does not look at it. -/
def Uniform {α : Type} (act : Exec α) : Prop :=
  ∀ (regs : Registers) (pos : Nat), ∃ result reach, ∀ furthest,
    act ⟨regs, ⟨pos, furthest⟩⟩ = examinedTo (max furthest reach) result

variable {α β : Type} {env : Environment} {p : Program}

/-! ## Actions -/

/-- An action that leaves it as it is. -/
theorem Uniform.still {act : Exec α}
    (same : ∀ regs pos furthest, act ⟨regs, ⟨pos, furthest⟩⟩ =
      examinedTo furthest (act ⟨regs, ⟨pos, 0⟩⟩)) : Uniform act := by
  intro regs pos
  refine ⟨act ⟨regs, ⟨pos, 0⟩⟩, 0, fun furthest => ?_⟩
  rw [Nat.max_zero]
  exact same regs pos furthest

/-- Returning something does not look at how far the text was examined. -/
theorem Uniform.pure (a : α) : Uniform (pure a : Exec α) := .still fun _ _ _ => rfl

/-- Failing does not look at it. -/
theorem Uniform.throw (fault : EngineFault) : Uniform (throw fault : Exec α) :=
  .still fun _ _ _ => rfl

/-- One action after another. -/
theorem Uniform.bind {act : Exec α} {go : α → Exec β} (first : Uniform act)
    (second : ∀ a, Uniform (go a)) : Uniform (act >>= go) := by
  intro regs pos
  obtain ⟨result, reach, same⟩ := first regs pos
  rcases result with ⟨a, regs', pos', _⟩ | ⟨fault, regs', pos', _⟩
  · obtain ⟨result', reach', same'⟩ := second a regs' pos'
    refine ⟨result', max reach reach', fun furthest => ?_⟩
    have whole : (act >>= go) ⟨regs, ⟨pos, furthest⟩⟩ =
        go a ⟨regs', ⟨pos', max furthest reach⟩⟩ := by
      change EStateM.bind act go _ = _
      rw [EStateM.bind, same furthest]
      rfl
    rw [whole, same', Nat.max_assoc]
  · refine ⟨.error fault ⟨regs', ⟨pos', 0⟩⟩, reach, fun furthest => ?_⟩
    change EStateM.bind act go _ = _
    rw [EStateM.bind, same furthest]
    rfl

/-- Reading an integer does not look at it. -/
theorem readInt_uniform (slot : IntSlot) : Uniform (readInt p slot) := by
  refine .still fun regs pos furthest => ?_
  unfold readInt
  dsimp only
  cases regs.ints[slot.index]? <;> rfl

/-- Writing an integer does not look at it. -/
theorem writeInt_uniform (slot : IntSlot) (n : Int) : Uniform (writeInt p slot n) := by
  refine .still fun regs pos furthest => ?_
  unfold writeInt
  dsimp only
  split <;> rfl

/-- Reading an object does not look at it. -/
theorem readObj_uniform (slot : ObjSlot) : Uniform (readObj p slot) := by
  refine .still fun regs pos furthest => ?_
  unfold readObj
  dsimp only
  cases regs.objs[slot.index]? <;> rfl

/-- Writing an object does not look at it. -/
theorem writeObj_uniform (slot : ObjSlot) (v : Value) : Uniform (writeObj p slot v) := by
  refine .still fun regs pos furthest => ?_
  unfold writeObj
  dsimp only
  split <;> rfl

/-- Taking an object does not look at it. -/
theorem takeObj_uniform (slot : ObjSlot) : Uniform (takeObj p slot) := by
  refine .still fun regs pos furthest => ?_
  unfold takeObj
  dsimp only
  cases regs.objs[slot.index]? <;> rfl

/-- A look-up does not look at it. -/
theorem lookUp_uniform (found : Except EngineFault α) : Uniform (lookUp found) := by
  cases found with
  | ok a => exact .pure a
  | error fault => exact .throw fault

/-- The position does not depend on it. -/
theorem position_uniform : Uniform position := .still fun _ _ _ => rfl

/-- Looking at the next character raises it only. -/
theorem peekChar_uniform : Uniform (peekChar env) := fun regs pos =>
  ⟨.ok (Text.charAt? env.text pos) ⟨regs, ⟨pos, 0⟩⟩, pos, fun _ => rfl⟩

/-- Going forward raises it only. -/
theorem advanceTo_uniform (stop : Nat) : Uniform (advanceTo stop) := fun regs _ =>
  ⟨.ok () ⟨regs, ⟨stop, 0⟩⟩, stop, fun _ => rfl⟩

/-- Going to a place raises it only. -/
theorem seek_uniform (pos : Nat) : Uniform (seek env p pos) := by
  unfold seek
  split
  · exact .still fun _ _ _ => rfl
  · exact .throw _

/-- Reading a position does not look at it. -/
theorem readPosition_uniform (slot : IntSlot) : Uniform (readPosition p slot) := by
  refine .bind (readInt_uniform slot) fun raw => ?_
  split
  · exact .throw _
  · exact .pure _

/-- Going to a label does not look at it. -/
theorem goTo_uniform (label : Label) : Uniform (goTo p label) :=
  .bind (lookUp_uniform _) fun _ => .pure _

/-! ## Operations -/

/-- Reading an argument does not look at it. -/
theorem readArg_uniform (args : List Slot) : Uniform (readArg p args) := by
  unfold readArg
  split
  · exact .bind (readInt_uniform _) fun _ => .pure _
  · exact readObj_uniform _
  · exact .throw _

/-- Consuming text raises it only. -/
theorem consumeTo_uniform (stop : Nat) : Uniform (consumeTo env stop) :=
  .bind position_uniform fun _ => .bind (advanceTo_uniform stop) fun _ => .pure _

/-- An operation on the text raises it only. -/
theorem perform_uniform (args : List Slot) (native : Native) :
    Uniform (perform env p args native) := by
  have consumed (stop : Nat) : Uniform (some <$> consumeTo env stop) :=
    .bind (consumeTo_uniform stop) fun _ => .pure _
  cases native with
  | matchRegex index =>
    refine .bind (lookUp_uniform _) fun regex => .bind position_uniform fun pos => ?_
    split
    · exact consumed _
    · exact .pure _
  | parseNumber kind =>
    refine .bind position_uniform fun pos => ?_
    split
    · exact .bind (advanceTo_uniform _) fun _ => .pure _
    · exact .pure _
  | takeChars =>
    refine .bind (readArg_uniform args) fun arg => ?_
    split
    · refine .bind position_uniform fun pos => ?_
      split
      · exact consumed _
      · exact .pure _
    · exact .throw _
  | foldCase =>
    refine .bind (readArg_uniform args) fun arg => ?_
    split
    · exact .pure _
    · exact .throw _
  | userObject => exact .pure _

/-- Storing a value does not look at it. -/
theorem storeValue_uniform (dst : Option Slot) (v : Value) : Uniform (storeValue p dst v) := by
  unfold storeValue
  split
  · exact .pure _
  · exact writeObj_uniform _ _
  · split
    · exact writeInt_uniform _ _
    · exact writeInt_uniform _ _
    · exact writeInt_uniform _ _
    · exact .throw _

/-- Storing a product does not look at it. -/
theorem storeProduct_uniform (dst : Option Slot) (product : Product) :
    Uniform (storeProduct p dst product) := by
  unfold storeProduct
  split
  · exact .pure _
  · exact writeInt_uniform _ _
  · exact writeObj_uniform _ _
  all_goals exact .throw _

/-- The product of a run does not depend on it. -/
theorem product_uniform : Uniform (product p) := by
  unfold product
  split
  · exact .pure _
  · exact .bind (readInt_uniform _) fun _ => .pure _
  · exact .bind (takeObj_uniform _) fun _ => .pure _

/-- Adding to a list does not look at it. -/
theorem pushItem_uniform (list : ObjSlot) (item : Value) : Uniform (pushItem p list item) := by
  refine .bind (takeObj_uniform list) fun held => ?_
  split
  · exact writeObj_uniform _ _
  · exact .throw _

/-- Adding to a text does not look at it. -/
theorem pushText_uniform (text : ObjSlot) (item : Value) : Uniform (pushText p text item) := by
  refine .bind (takeObj_uniform text) fun held => ?_
  split
  · split
    · exact writeObj_uniform _ _
    · exact writeObj_uniform _ _
    · exact .throw _
  · exact .throw _

/-- Adding a character to a text does not look at it. -/
theorem pushChar_uniform (text : ObjSlot) (c : Char) : Uniform (pushChar p text c) := by
  refine .bind (takeObj_uniform text) fun held => ?_
  split
  · exact writeObj_uniform _ _
  · exact .throw _

/-! ## Instructions -/

/-- Going on to the next instruction does not look at it. -/
theorem thenNext_uniform {act : Exec Unit} (h : Uniform act) : Uniform (thenNext act) :=
  .bind h fun _ => .pure _

/-- No instruction looks at how far the text was examined. -/
theorem execute_uniform (i : Instruction) : Uniform (execute env p i) := by
  cases i with
  | jump target => exact goTo_uniform target
  | jumpIf cond a b target =>
    refine .bind (readInt_uniform a) fun x => ?_
    have decide (y : Int) :
        Uniform (if cond.holds x y then goTo p target else pure Control.next : Exec Control) := by
      split
      · exact goTo_uniform target
      · exact .pure _
    cases b with
    | slot slot => exact .bind (readInt_uniform slot) decide
    | imm n => exact .bind (.pure n) decide
  | jumpIfObjEq a b target =>
    refine .bind (readObj_uniform a) fun x => .bind (readObj_uniform b) fun y => ?_
    split
    · exact goTo_uniform target
    · exact .pure _
  | ret success =>
    cases success with
    | false => exact .pure _
    | true => exact .bind product_uniform fun _ => .pure _
  | loadImm dst n => exact thenNext_uniform (writeInt_uniform dst n)
  | addImm dst n =>
    exact thenNext_uniform (.bind (readInt_uniform dst) fun _ => writeInt_uniform dst _)
  | savePos dst =>
    exact thenNext_uniform (.bind position_uniform fun _ => writeInt_uniform dst _)
  | restorePos src =>
    exact thenNext_uniform (.bind (readPosition_uniform src) fun pos => seek_uniform pos)
  | peekChar dst =>
    refine thenNext_uniform (.bind peekChar_uniform fun c => ?_)
    split
    · exact writeInt_uniform dst _
    · exact writeInt_uniform dst _
  | advance chars =>
    exact thenNext_uniform (.bind position_uniform fun _ => advanceTo_uniform _)
  | loadConst dst index =>
    exact thenNext_uniform (.bind (lookUp_uniform _) fun v => writeObj_uniform dst v)
  | construct dst ty =>
    refine thenNext_uniform ?_
    split
    · exact writeObj_uniform dst _
    · exact .throw _
  | setField obj field src =>
    refine thenNext_uniform (.bind (takeObj_uniform src) fun v => .bind (takeObj_uniform obj)
      fun object => ?_)
    split
    · exact writeObj_uniform obj _
    · exact .throw _
  | box dst src kind =>
    refine thenNext_uniform (.bind (readInt_uniform src) fun raw => ?_)
    split
    · exact writeObj_uniform dst _
    · exact .throw _
  | listNew dst => exact thenNext_uniform (writeObj_uniform dst _)
  | listPush list item =>
    exact thenNext_uniform (.bind (takeObj_uniform item) fun v => pushItem_uniform list v)
  | textNew dst => exact thenNext_uniform (writeObj_uniform dst _)
  | textPush text item =>
    exact thenNext_uniform (.bind (takeObj_uniform item) fun v => pushText_uniform text v)
  | textPushChar text item =>
    refine thenNext_uniform (.bind (readInt_uniform item) fun raw => ?_)
    split
    · exact pushChar_uniform text _
    · exact .throw _
  | slice dst start =>
    refine thenNext_uniform (.bind (readPosition_uniform start) fun from_ =>
      .bind position_uniform fun pos => ?_)
    split
    · exact writeObj_uniform dst _
    · exact .throw _
  | invoke native args dst onFail =>
    refine .bind (perform_uniform args native) fun v => ?_
    split
    · exact thenNext_uniform (storeValue_uniform dst _)
    · exact goTo_uniform onFail
  | call callee name dst onFail => exact .bind (lookUp_uniform _) fun _ => .pure _

end Packrat.Machine
