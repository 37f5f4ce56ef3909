import Packrat.Proofs.Lowering.Discipline
import Packrat.Proofs.Machine.Instruction
import Packrat.Proofs.Text.Beginning

/-!
# What instructions look at

Orderly instructions look at the text up to the furthest place examined, and no further: at the
next character, which counts as examined; at characters that are passed over; and between places
that were examined before. So they do the same on any text that looks the same up to there.

* `Examined`: the position and the positions kept are not beyond the furthest place.
* `Apart`: an action leaves the cursor and the positions kept as they are.
* `Confined`: an action does the same on another text that looks the same as far as it examines it.

Main statement: `execute_confined`.
-/

namespace Packrat

/-- The integer registers that an instruction sets. -/
def Instruction.sets : Instruction → List IntSlot
  | .loadImm dst _ | .addImm dst _ | .savePos dst | .peekChar dst => [dst]
  | .invoke _ _ dst _ | .call _ _ dst _ => Slot.scalars dst
  | _ => []

/-- An instruction keeps the place in the text, moves it or looks what is there. -/
def Instruction.onText : Instruction → Bool
  | .savePos _ | .restorePos _ | .peekChar _ | .advance _ | .invoke _ _ _ _ => true
  | _ => false

namespace Machine

/-- The position is on a boundary up to which the text was examined, and so is the furthest
place. -/
structure Cursor.Examined (text : String) (cursor : Cursor) : Prop where
  pos : Text.isBoundary text cursor.pos = true
  le : cursor.pos ≤ cursor.furthest
  furthest : Text.isBoundary text cursor.furthest = true

/-- The positions kept in registers are places up to which the text was examined. -/
def Registers.Examined (kept : List IntSlot) (furthest : Nat) (regs : Registers) : Prop :=
  ∀ r ∈ kept, ∀ n, regs.ints[r.index]? = some n → n ≤ furthest

/-- Cursor and kept positions are places up to which the text was examined. -/
structure Examined (text : String) (kept : List IntSlot) (s : Local) : Prop where
  cursor : Cursor.Examined text s.cursor
  regs : s.regs.Examined kept s.cursor.furthest

/-- Registers and cursor after an action. -/
def stateAfter {α : Type} : EStateM.Result EngineFault Local α → Local
  | .ok _ s => s
  | .error _ s => s

/-- An action leaves the cursor and the kept positions as they are. -/
def Apart {α : Type} (kept : List IntSlot) (act : Exec α) : Prop :=
  ∀ s, (stateAfter (act s)).cursor = s.cursor ∧
    ∀ r ∈ kept, (stateAfter (act s)).regs.ints[r.index]? = s.regs.ints[r.index]?

/-- From `s` on an action examines the text further, if at all, and another action does the same
unless the first one examines the text beyond `reach`. -/
structure ConfinedAt {α : Type} (text : String) (kept : List IntSlot) (reach : Nat)
    (act act' : Exec α) (s : Local) : Prop where
  further : s.cursor.furthest ≤ (stateAfter (act s)).cursor.furthest
  examined : Examined text kept (stateAfter (act s))
  alike : (stateAfter (act s)).cursor.furthest ≤ reach → act' s = act s

/-- An action examines the text further, if at all, and another action does the same unless the
first one examines the text beyond `reach`. -/
def Confined {α : Type} (text : String) (kept : List IntSlot) (reach : Nat)
    (act act' : Exec α) : Prop :=
  ∀ s, Examined text kept s → ConfinedAt text kept reach act act' s

variable {α β : Type} {env : Environment} {p : Program} {text : String} {kept : List IntSlot}
  {reach : Nat} {s : Local}

/-- Behind an action that succeeds, the next one runs. -/
theorem bind_ok {act : Exec α} {go : α → Exec β} {a : α} {after : Local}
    (ran : act s = .ok a after) : (act >>= go) s = go a after := by
  change EStateM.bind act go s = _
  rw [EStateM.bind, ran]

/-- Behind an action that fails, none does. -/
theorem bind_error {act : Exec α} {go : α → Exec β} {fault : EngineFault} {after : Local}
    (ran : act s = .error fault after) : (act >>= go) s = .error fault after := by
  change EStateM.bind act go s = _
  rw [EStateM.bind, ran]

/-! ## Actions apart from the text -/

namespace Apart

/-- Returning something keeps apart from the text. -/
theorem pure (a : α) : Apart kept (pure a : Exec α) := fun _ => ⟨rfl, fun _ _ => rfl⟩

/-- So does failing. -/
theorem throw (fault : EngineFault) : Apart kept (throw fault : Exec α) :=
  fun _ => ⟨rfl, fun _ _ => rfl⟩

/-- One action after another. -/
theorem bind {act : Exec α} {go : α → Exec β} (first : Apart kept act)
    (second : ∀ a, Apart kept (go a)) : Apart kept (act >>= go) := by
  intro s
  obtain ⟨cursor, ints⟩ := first s
  cases ran : act s with
  | error fault after =>
    rw [ran] at cursor ints
    rw [bind_error ran]
    exact ⟨cursor, ints⟩
  | ok a after =>
    rw [ran] at cursor ints
    rw [bind_ok ran]
    obtain ⟨cursor', ints'⟩ := second a after
    exact ⟨cursor'.trans cursor, fun r member => (ints' r member).trans (ints r member)⟩

end Apart

/-- Reading an integer keeps apart from the text. -/
theorem readInt_apart (slot : IntSlot) : Apart kept (readInt p slot) := by
  intro s
  unfold readInt
  cases s.regs.ints[slot.index]? <;> exact ⟨rfl, fun _ _ => rfl⟩

/-- A register that keeps no position may be set. -/
theorem writeInt_apart {slot : IntSlot} (free : slot ∉ kept) (n : Int) :
    Apart kept (writeInt p slot n) := by
  rintro ⟨⟨ints, objs⟩, cursor⟩
  unfold writeInt
  dsimp only
  split
  · refine ⟨rfl, fun r member => Array.getElem?_setIfInBounds_ne fun same => free ?_⟩
    rwa [show slot = r from congrArg IntSlot.mk same]
  · exact ⟨rfl, fun _ _ => rfl⟩

/-- Reading an object keeps apart from the text. -/
theorem readObj_apart (slot : ObjSlot) : Apart kept (readObj p slot) := by
  intro s
  unfold readObj
  cases s.regs.objs[slot.index]? <;> exact ⟨rfl, fun _ _ => rfl⟩

/-- Writing an object keeps apart from the text. -/
theorem writeObj_apart (slot : ObjSlot) (v : Value) : Apart kept (writeObj p slot v) := by
  rintro ⟨⟨ints, objs⟩, cursor⟩
  unfold writeObj
  dsimp only
  split <;> exact ⟨rfl, fun _ _ => rfl⟩

/-- Taking an object keeps apart from the text. -/
theorem takeObj_apart (slot : ObjSlot) : Apart kept (takeObj p slot) := by
  rintro ⟨⟨ints, objs⟩, cursor⟩
  unfold takeObj
  dsimp only
  cases objs[slot.index]? <;> exact ⟨rfl, fun _ _ => rfl⟩

/-- A look-up keeps apart from the text. -/
theorem lookUp_apart (found : Except EngineFault α) : Apart kept (lookUp found) := by
  cases found with
  | ok a => exact .pure a
  | error fault => exact .throw fault

/-- Going to a label keeps apart from the text. -/
theorem goTo_apart (label : Label) : Apart kept (goTo p label) :=
  .bind (lookUp_apart _) fun _ => .pure _

/-- Going on to the next instruction keeps apart from the text. -/
theorem thenNext_apart {act : Exec Unit} (apart : Apart kept act) : Apart kept (thenNext act) :=
  .bind apart fun _ => .pure _

/-- Reading the product of a run keeps apart from the text. -/
theorem product_apart : Apart kept (product p) := by
  unfold product
  split
  · exact .pure _
  · exact .bind (readInt_apart _) fun _ => .pure _
  · exact .bind (takeObj_apart _) fun _ => .pure _

/-- Adding to a list keeps apart from the text. -/
theorem pushItem_apart (list : ObjSlot) (item : Value) : Apart kept (pushItem p list item) := by
  refine .bind (takeObj_apart list) fun held => ?_
  split
  · exact writeObj_apart _ _
  · exact .throw _

/-- Adding to a text in a register keeps apart from the text that is parsed. -/
theorem pushText_apart (target : ObjSlot) (item : Value) :
    Apart kept (pushText p target item) := by
  refine .bind (takeObj_apart target) fun held => ?_
  split
  · split
    · exact writeObj_apart _ _
    · exact writeObj_apart _ _
    · exact .throw _
  · exact .throw _

/-- Adding a character to a text in a register keeps apart from the text that is parsed. -/
theorem pushChar_apart (target : ObjSlot) (c : Char) : Apart kept (pushChar p target c) := by
  refine .bind (takeObj_apart target) fun held => ?_
  split
  · exact writeObj_apart _ _
  · exact .throw _

/-- Reading an argument keeps apart from the text. -/
theorem readArg_apart (args : List Slot) : Apart kept (readArg p args) := by
  unfold readArg
  split
  · exact .bind (readInt_apart _) fun _ => .pure _
  · exact readObj_apart _
  · exact .throw _

/-- Storing a value keeps apart from the text if the register holds no position. -/
theorem storeValue_apart {dst : Option Slot} (free : ∀ r ∈ Slot.scalars dst, r ∉ kept)
    (v : Value) : Apart kept (storeValue p dst v) := by
  unfold storeValue
  split
  · exact .pure _
  · exact writeObj_apart _ _
  · have free := free _ List.mem_cons_self
    split
    · exact writeInt_apart free _
    · exact writeInt_apart free _
    · exact writeInt_apart free _
    · exact .throw _

/-- The product of a call is stored in a register that keeps no position. -/
theorem storeProduct_apart {dst : Option Slot} (free : ∀ r ∈ Slot.scalars dst, r ∉ kept)
    (product : Product) : Apart kept (storeProduct p dst product) := by
  unfold storeProduct
  split
  · exact .pure _
  · exact writeInt_apart (free _ List.mem_cons_self) _
  · exact writeObj_apart _ _
  all_goals exact .throw _

/-- Looking where the run is keeps apart from the text. -/
theorem position_apart : Apart kept position := fun _ => ⟨rfl, fun _ _ => rfl⟩

/-- Reading a position keeps apart from the text. -/
theorem readPosition_apart (slot : IntSlot) : Apart kept (readPosition p slot) := by
  refine .bind (readInt_apart slot) fun raw => ?_
  split
  · exact .throw _
  · exact .pure _

/-! ## Instructions apart from the text -/

/-- Orderly instructions set no register that keeps a position, but to keep one. -/
theorem free_of_orderly {i : Instruction} {scans : Bool} (aside : i.onText = false)
    (orderly : i.Orderly scans kept fun r => r ∉ kept) : ∀ r ∈ i.sets, r ∉ kept := by
  cases i with
  | loadImm dst n => exact fun r member => List.mem_singleton.mp member ▸ orderly
  | addImm dst n => exact fun r member => List.mem_singleton.mp member ▸ orderly
  | call index name dst onFail => exact orderly
  | savePos dst => cases aside
  | peekChar dst => cases aside
  | invoke native args dst onFail => cases aside
  | _ => exact nofun

/-- All other instructions leave cursor and kept positions as they are. -/
theorem execute_apart {i : Instruction} (aside : i.onText = false)
    (free : ∀ r ∈ i.sets, r ∉ kept) : Apart kept (execute env p i) := by
  cases i with
  | jump target => exact goTo_apart target
  | jumpIf cond a b target =>
    refine .bind (readInt_apart a) fun x => ?_
    have decide (y : Int) : Apart kept
        (if cond.holds x y then goTo p target else pure Control.next : Exec Control) := by
      split
      · exact goTo_apart target
      · exact .pure _
    cases b with
    | slot slot => exact .bind (readInt_apart slot) decide
    | imm n => exact .bind (.pure n) decide
  | jumpIfObjEq a b target =>
    refine .bind (readObj_apart a) fun x => .bind (readObj_apart b) fun y => ?_
    split
    · exact goTo_apart target
    · exact .pure _
  | ret success =>
    cases success with
    | false => exact .pure _
    | true => exact .bind product_apart fun _ => .pure _
  | loadImm dst n => exact thenNext_apart (writeInt_apart (free dst (.head _)) n)
  | addImm dst n =>
    exact thenNext_apart (.bind (readInt_apart dst) fun _ => writeInt_apart (free dst (.head _)) _)
  | loadConst dst index =>
    exact thenNext_apart (.bind (lookUp_apart _) fun v => writeObj_apart dst v)
  | construct dst ty =>
    refine thenNext_apart ?_
    split
    · exact writeObj_apart dst _
    · exact .throw _
  | setField obj field src =>
    refine thenNext_apart (.bind (takeObj_apart src) fun v => .bind (takeObj_apart obj) fun o => ?_)
    split
    · exact writeObj_apart obj _
    · exact .throw _
  | box dst src kind =>
    refine thenNext_apart (.bind (readInt_apart src) fun raw => ?_)
    split
    · exact writeObj_apart dst _
    · exact .throw _
  | listNew dst => exact thenNext_apart (writeObj_apart dst _)
  | listPush list item =>
    exact thenNext_apart (.bind (takeObj_apart item) fun v => pushItem_apart list v)
  | textNew dst => exact thenNext_apart (writeObj_apart dst _)
  | textPush target item =>
    exact thenNext_apart (.bind (takeObj_apart item) fun v => pushText_apart target v)
  | textPushChar target item =>
    refine thenNext_apart (.bind (readInt_apart item) fun raw => ?_)
    split
    · exact pushChar_apart target _
    · exact .throw _
  | slice dst start =>
    refine thenNext_apart (.bind (readPosition_apart start) fun n =>
      .bind position_apart fun pos => ?_)
    split
    · exact writeObj_apart dst _
    · exact .throw _
  | call callee name dst onFail => exact .bind (lookUp_apart _) fun _ => .pure _
  | savePos dst => cases aside
  | restorePos src => cases aside
  | peekChar dst => cases aside
  | advance chars => cases aside
  | invoke native args dst onFail => cases aside

/-! ## Actions on the text -/

/-- What was examined stays examined. -/
theorem Registers.Examined.mono {regs : Registers} {furthest furthest' : Nat}
    (examined : regs.Examined kept furthest) (le : furthest ≤ furthest') :
    regs.Examined kept furthest' :=
  fun r member n there => Int.le_trans (examined r member n there) (Int.ofNat_le.mpr le)

/-- An action apart from the text does the same if it is the same. -/
theorem Apart.confinedAt {act act' : Exec α} (apart : Apart kept act)
    (examined : Examined text kept s) (same : s.cursor.furthest ≤ reach → act' s = act s) :
    ConfinedAt text kept reach act act' s := by
  obtain ⟨cursor, ints⟩ := apart s
  refine ⟨Nat.le_of_eq (congrArg Cursor.furthest cursor).symm, ⟨?_, ?_⟩, fun le => ?_⟩
  · rw [cursor]
    exact examined.cursor
  · rw [cursor]
    intro r member n there
    exact examined.regs r member n ((ints r member).symm.trans there)
  · rw [cursor] at le
    exact same le

/-- An action that keeps apart from the text is the same on another text. -/
theorem Apart.confined {act : Exec α} (apart : Apart kept act) :
    Confined text kept reach act act :=
  fun _ examined => apart.confinedAt examined fun _ => rfl

/-- One action after another. -/
theorem ConfinedAt.bind {act act' : Exec α} {go go' : α → Exec β}
    (first : ConfinedAt text kept reach act act' s)
    (second : ∀ a after, act s = .ok a after → Examined text kept after →
      ConfinedAt text kept reach (go a) (go' a) after) :
    ConfinedAt text kept reach (act >>= go) (act' >>= go') s := by
  obtain ⟨further, examined, alike⟩ := first
  cases ran : act s with
  | error fault after =>
    rw [ran] at further examined alike
    have first : (act >>= go) s = .error fault after := bind_error ran
    refine ⟨first ▸ further, first ▸ examined, fun le => ?_⟩
    rw [first] at le ⊢
    exact bind_error (alike le)
  | ok a after =>
    rw [ran] at further examined alike
    have first : (act >>= go) s = go a after := bind_ok ran
    obtain ⟨further', examined', alike'⟩ := second a after ran examined
    refine ⟨first ▸ Nat.le_trans further further', first ▸ examined', fun le => ?_⟩
    rw [first] at le ⊢
    rw [bind_ok (alike (Nat.le_trans further' le))]
    exact alike' le

/-- One action after another. -/
theorem Confined.bind {act act' : Exec α} {go go' : α → Exec β}
    (first : Confined text kept reach act act')
    (second : ∀ a, Confined text kept reach (go a) (go' a)) :
    Confined text kept reach (act >>= go) (act' >>= go') :=
  fun s examined => (first s examined).bind fun a after _ => second a after

/-- Going on to the next instruction is confined as the action before it is. -/
theorem Confined.thenNext {act act' : Exec Unit} (confined : Confined text kept reach act act') :
    Confined text kept reach (thenNext act) (thenNext act') :=
  confined.bind fun _ => (Apart.pure _).confined

/-- A kept position is a place up to which the text was examined. -/
theorem le_of_readPosition {slot : IntSlot} (here : slot ∈ kept) (examined : Examined text kept s)
    {start : Nat} {after : Local} (ran : readPosition p slot s = .ok start after) :
    start ≤ after.cursor.furthest := by
  cases there : s.regs.ints[slot.index]? with
  | none =>
    have read : readInt p slot s =
        .error (.slotOutOfRange p.name "int" slot.index p.intSlots) s := by
      rw [readInt, there]
    rw [readPosition, bind_error read] at ran
    cases ran
  | some n =>
    have read : readInt p slot s = .ok n s := by rw [readInt, there]
    rw [readPosition, bind_ok read] at ran
    split at ran
    · cases ran
    · cases ran
      exact Int.toNat_le.mpr (examined.regs slot here n there)

/-- A place that was examined may be kept in any register. -/
theorem writeInt_confined {n : Int} (examined : Examined text kept s)
    (le : n ≤ s.cursor.furthest) (slot : IntSlot) :
    ConfinedAt text kept reach (writeInt p slot n) (writeInt p slot n) s := by
  obtain ⟨⟨ints, objs⟩, cursor⟩ := s
  by_cases inside : slot.index < ints.size
  · have wrote : writeInt p slot n ⟨⟨ints, objs⟩, cursor⟩ =
        .ok () ⟨⟨ints.setIfInBounds slot.index n, objs⟩, cursor⟩ := if_pos inside
    refine ⟨?_, ?_, fun _ => rfl⟩
    · rw [wrote]
      exact Nat.le_refl _
    · rw [wrote]
      refine ⟨examined.cursor, fun r member m there => ?_⟩
      change (ints.setIfInBounds slot.index n)[r.index]? = some m at there
      rw [Array.getElem?_setIfInBounds] at there
      split at there
      · cases there
        exact le
      · exact examined.regs r member m there
  · have outside : writeInt p slot n ⟨⟨ints, objs⟩, cursor⟩ =
        .error (.slotOutOfRange p.name "int" slot.index p.intSlots) ⟨⟨ints, objs⟩, cursor⟩ :=
      if_neg inside
    refine ⟨?_, ?_, fun _ => rfl⟩
    · rw [outside]
      exact Nat.le_refl _
    · rw [outside]
      exact examined

section

variable {text' : String} (alike : Text.Alike env.text text' reach)

include alike

/-- Looking at the next character examines the text up to its end. -/
theorem peekChar_confined :
    Confined env.text kept reach (peekChar env) (peekChar { env with text := text' }) := by
  rintro ⟨regs, ⟨pos, furthest⟩⟩ ⟨cursor, kept⟩
  have stays : max furthest pos = furthest := Nat.max_eq_left cursor.le
  refine ⟨Nat.le_max_left _ _, ?_, fun le => ?_⟩
  · change Examined env.text _ ⟨regs, ⟨pos, max furthest pos⟩⟩
    rw [stays]
    exact ⟨cursor, kept⟩
  · unfold peekChar
    dsimp only
    rw [alike.char pos (Nat.le_trans (Nat.le_max_right _ _) le)]

/-- Going back to a place that was examined examines nothing more. -/
theorem seek_confined {pos : Nat} (examined : Examined env.text kept s)
    (le : pos ≤ s.cursor.furthest) :
    ConfinedAt env.text kept reach (seek env p pos) (seek { env with text := text' } p pos) s := by
  unfold seek
  dsimp only
  by_cases boundary : Text.isBoundary env.text pos = true
  · rw [if_pos boundary]
    refine ⟨Nat.le_refl _, ⟨⟨boundary, le, examined.cursor.furthest⟩, examined.regs⟩,
      fun near => ?_⟩
    rw [alike.boundary pos (Nat.le_trans le near), if_pos boundary]
  · rw [if_neg boundary]
    refine (Apart.throw _).confinedAt examined fun near => ?_
    rw [alike.boundary pos (Nat.le_trans le near), if_neg boundary]

/-- Going forward examines the text that is passed over. -/
theorem advance_confined (examined : Examined env.text kept s) (chars : Nat) :
    ConfinedAt env.text kept reach (advanceTo (Text.skip env.text s.cursor.pos chars))
      (advanceTo (Text.skip text' s.cursor.pos chars)) s := by
  obtain ⟨regs, ⟨pos, furthest⟩⟩ := s
  obtain ⟨⟨here, le, edge⟩, kept⟩ := examined
  have stop := (Text.within_skip env.text pos chars).isBoundary here
  have edge' : Text.isBoundary env.text (max furthest (Text.skip env.text pos chars)) = true := by
    rcases Nat.le_total furthest (Text.skip env.text pos chars) with further | back
    · rw [Nat.max_eq_right further]
      exact stop
    · rw [Nat.max_eq_left back]
      exact edge
  refine ⟨Nat.le_max_left _ _,
    ⟨⟨stop, Nat.le_max_right _ _, edge'⟩, kept.mono (Nat.le_max_left _ _)⟩,
    fun near => ?_⟩
  rw [alike.skip (Nat.le_trans (Nat.le_max_right _ _) near)]

/-- An instruction of a program that does not scan looks at the text only as far as it examines
it. -/
theorem execute_confined {i : Instruction} (orderly : i.Orderly false kept fun r => r ∉ kept) :
    Confined env.text kept reach (execute env p i) (execute { env with text := text' } p i) := by
  cases i with
  | savePos dst =>
    refine .thenNext fun s examined => (position_apart.confined s examined).bind ?_
    rintro pos after ⟨⟩ examined
    refine writeInt_confined examined ?_ dst
    exact Int.le_trans (Int.min_le_left _ _) (Int.ofNat_le.mpr examined.cursor.le)
  | restorePos src =>
    refine .thenNext fun s examined => ((readPosition_apart src).confined s examined).bind ?_
    intro start after ran examined'
    exact seek_confined alike examined' (le_of_readPosition orderly examined ran)
  | peekChar dst =>
    refine .thenNext (.bind (peekChar_confined alike) fun c => Apart.confined ?_)
    split
    · exact writeInt_apart orderly _
    · exact writeInt_apart orderly _
  | advance chars =>
    refine .thenNext fun s examined => (position_apart.confined s examined).bind ?_
    rintro pos after ⟨⟩ examined
    exact advance_confined alike examined chars
  | slice dst start =>
    refine .thenNext fun s examined => ((readPosition_apart start).confined s examined).bind ?_
    intro start after ran examined
    refine (position_apart.confined after examined).bind ?_
    rintro pos after ⟨⟩ examined
    refine Apart.confinedAt ?_ examined fun near => ?_
    · split
      · exact writeObj_apart dst _
      · exact .throw _
    · dsimp only
      rw [alike.slice _ _ (Nat.le_trans examined.cursor.le near)]
  | invoke native args dst onFail =>
    obtain ⟨scans | rfl, free⟩ := orderly
    · cases scans
    · refine Apart.confined (.bind (.pure _) fun v => ?_)
      split
      · exact thenNext_apart (storeValue_apart free _)
      · exact goTo_apart onFail
  | ret success =>
    cases success with
    | false => exact (execute_apart rfl (free_of_orderly rfl orderly)).confined
    | true => exact (execute_apart rfl (free_of_orderly rfl orderly)).confined
  | _ => exact (execute_apart rfl (free_of_orderly rfl orderly)).confined

end

end Machine

end Packrat
