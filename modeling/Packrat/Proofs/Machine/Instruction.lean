import Packrat.Machine.Execute
import Packrat.Proofs.Meaning

/-!
# Single instructions

What each instruction does when its registers are there. The registers of a run are read and
written by functions without failure; `Registers.Fits` says that there are as many as the program
asks for, and so every register number below that can be used.

* `Registers.int`, `Registers.obj`: the content of a register.
* `Registers.setInt`, `Registers.setObj`, `Registers.store`: registers with one of them set.
* `execute_savePos`, `execute_peekChar`, …: the instructions.
* `perform_matchRegex`, `perform_takeChars`, …: the operations on the text.
* `storeProduct_eq`, `execute_ret`: the results of calls and runs.
-/

namespace Packrat.Machine

open Meaning (addedText)

/-! ## Registers -/

namespace Registers

/-- The content of an integer register. -/
def int (regs : Registers) (slot : IntSlot) : Int := regs.ints.getD slot.index 0

/-- The content of an object register. -/
def obj (regs : Registers) (slot : ObjSlot) : Value := regs.objs.getD slot.index .null

/-- The registers with an integer register set. -/
def setInt (regs : Registers) (slot : IntSlot) (n : Int) : Registers :=
  ⟨regs.ints.setIfInBounds slot.index n, regs.objs⟩

/-- The registers with an object register set. -/
def setObj (regs : Registers) (slot : ObjSlot) (v : Value) : Registers :=
  ⟨regs.ints, regs.objs.setIfInBounds slot.index v⟩

/-- There are as many registers as a program asks for. -/
structure Fits (regs : Registers) (p : Program) : Prop where
  ints : regs.ints.size = p.intSlots
  objs : regs.objs.size = p.objSlots

/-- The registers a run begins with are those its program asks for. -/
theorem fits_fresh (p : Program) : (fresh p).Fits p :=
  ⟨Array.size_replicate, Array.size_replicate⟩

variable {regs : Registers} {p : Program}

/-- Writing an integer register leaves the number of registers as it is. -/
theorem Fits.setInt (fits : regs.Fits p) (slot : IntSlot) (n : Int) : (regs.setInt slot n).Fits p :=
  ⟨Array.size_setIfInBounds.trans fits.ints, fits.objs⟩

/-- Writing an object register leaves the number of registers as it is. -/
theorem Fits.setObj (fits : regs.Fits p) (slot : ObjSlot) (v : Value) :
    (regs.setObj slot v).Fits p :=
  ⟨fits.ints, Array.size_setIfInBounds.trans fits.objs⟩

/-- Writing an object register leaves every integer register as it is. -/
@[simp] theorem int_setObj (slot : ObjSlot) (v : Value) (other : IntSlot) :
    (regs.setObj slot v).int other = regs.int other := rfl

/-- Writing an integer register leaves every object register as it is. -/
@[simp] theorem obj_setInt (slot : IntSlot) (n : Int) (other : ObjSlot) :
    (regs.setInt slot n).obj other = regs.obj other := rfl

/-- An integer register holds what was written to it. -/
theorem int_setInt (fits : regs.Fits p) {slot : IntSlot} (inside : slot.index < p.intSlots)
    (n : Int) : (regs.setInt slot n).int slot = n := by
  rw [← fits.ints] at inside
  simp [int, setInt, inside]

/-- Writing an integer register leaves the others as they are. -/
theorem int_setInt_of_ne {slot other : IntSlot} (differs : other.index ≠ slot.index) (n : Int) :
    (regs.setInt slot n).int other = regs.int other := by
  simp [int, setInt, differs.symm]

/-- An object register holds what was written to it. -/
theorem obj_setObj (fits : regs.Fits p) {slot : ObjSlot} (inside : slot.index < p.objSlots)
    (v : Value) : (regs.setObj slot v).obj slot = v := by
  rw [← fits.objs] at inside
  simp [obj, setObj, inside]

/-- Writing an object register leaves the others as they are. -/
theorem obj_setObj_of_ne {slot other : ObjSlot} (differs : other.index ≠ slot.index) (v : Value) :
    (regs.setObj slot v).obj other = regs.obj other := by
  simp [obj, setObj, differs.symm]

/-- The registers agree but for one integer register. -/
structure SameBut (slot : IntSlot) (regs regs' : Registers) : Prop where
  int : ∀ other : IntSlot, other.index ≠ slot.index → regs'.int other = regs.int other
  obj : ∀ other : ObjSlot, regs'.obj other = regs.obj other

/-- Registers are the same as themselves. -/
theorem SameBut.refl {slot : IntSlot} : SameBut slot regs regs := ⟨fun _ _ => rfl, fun _ => rfl⟩

/-- Two changes of one integer register are together a change of that register. -/
theorem SameBut.trans {slot : IntSlot} {regs' regs'' : Registers}
    (same : SameBut slot regs regs') (same' : SameBut slot regs' regs'') :
    SameBut slot regs regs'' where
  int other differs := (same'.int other differs).trans (same.int other differs)
  obj other := (same'.obj other).trans (same.obj other)

/-- Setting that register keeps the others. -/
theorem SameBut.setInt {slot : IntSlot} {regs' : Registers} (same : SameBut slot regs regs')
    (n : Int) : SameBut slot regs (regs'.setInt slot n) where
  int other differs := (int_setInt_of_ne differs n).trans (same.int other differs)
  obj other := same.obj other

/-- The registers once a product is stored in one of its own bank. -/
def store (regs : Registers) (dst : Option Slot) (product : Product) : Registers :=
  match dst, product with
  | some (.int slot), .int raw => regs.setInt slot raw
  | some (.obj slot), .obj v => regs.setObj slot v
  | _, _ => regs

/-- Storing an integer product is writing an integer register. -/
@[simp] theorem store_int (slot : IntSlot) (raw : Int) :
    regs.store (some (.int slot)) (.int raw) = regs.setInt slot raw := rfl

/-- Storing an object product is writing an object register. -/
@[simp] theorem store_obj (slot : ObjSlot) (v : Value) :
    regs.store (some (.obj slot)) (.obj v) = regs.setObj slot v := rfl

/-- Storing a product leaves the number of registers as it is. -/
theorem Fits.store (fits : regs.Fits p) (dst : Option Slot) (product : Product) :
    (regs.store dst product).Fits p := by
  rcases dst with _ | slot | slot
  · exact fits
  · cases product with
    | int raw => exact fits.setInt slot raw
    | obj v => exact fits
    | void => exact fits
  · cases product with
    | int raw => exact fits
    | obj v => exact fits.setObj slot v
    | void => exact fits

end Registers

variable {env : Environment} {p : Program} {regs : Registers} {cursor : Cursor}

/-! ## Access to registers -/

/-- Reading an integer register of the program gives what it holds. -/
theorem readInt_eq (fits : regs.Fits p) {slot : IntSlot} (inside : slot.index < p.intSlots) :
    readInt p slot ⟨regs, cursor⟩ = .ok (regs.int slot) ⟨regs, cursor⟩ := by
  rw [← fits.ints] at inside
  simp [readInt, Registers.int, inside]

/-- Writing an integer register of the program does not fail. -/
theorem writeInt_eq (fits : regs.Fits p) {slot : IntSlot} (inside : slot.index < p.intSlots)
    (n : Int) : writeInt p slot n ⟨regs, cursor⟩ = .ok () ⟨regs.setInt slot n, cursor⟩ := by
  rw [← fits.ints] at inside
  simp only [writeInt, inside, if_true, Registers.setInt]

/-- Reading an object register of the program gives what it holds. -/
theorem readObj_eq (fits : regs.Fits p) {slot : ObjSlot} (inside : slot.index < p.objSlots) :
    readObj p slot ⟨regs, cursor⟩ = .ok (regs.obj slot) ⟨regs, cursor⟩ := by
  rw [← fits.objs] at inside
  simp [readObj, Registers.obj, inside]

/-- Writing an object register of the program does not fail. -/
theorem writeObj_eq (fits : regs.Fits p) {slot : ObjSlot} (inside : slot.index < p.objSlots)
    (v : Value) : writeObj p slot v ⟨regs, cursor⟩ = .ok () ⟨regs.setObj slot v, cursor⟩ := by
  rw [← fits.objs] at inside
  simp only [writeObj, inside, if_true, Registers.setObj]

/-- Taking from an object register gives what it holds and leaves nothing there. -/
theorem takeObj_eq (fits : regs.Fits p) {slot : ObjSlot} (inside : slot.index < p.objSlots) :
    takeObj p slot ⟨regs, cursor⟩ = .ok (regs.obj slot) ⟨regs.setObj slot .null, cursor⟩ := by
  rw [← fits.objs] at inside
  simp [takeObj, Registers.obj, Registers.setObj, inside]

/-- The position is that of the cursor. -/
theorem position_eq : position ⟨regs, cursor⟩ = .ok cursor.pos ⟨regs, cursor⟩ := rfl

/-! ## Instructions that go on with the next one -/

/-- An action that succeeds goes on to the next instruction. -/
theorem thenNext_eq {act : Exec Unit} {l : Local} (h : act ⟨regs, cursor⟩ = .ok () l) :
    thenNext act ⟨regs, cursor⟩ = .ok .next l := by
  simp only [thenNext, bind, EStateM.bind, h]
  rfl

/-- Loading an immediate writes it to its register. -/
theorem execute_loadImm (fits : regs.Fits p) {dst : IntSlot} (inside : dst.index < p.intSlots)
    (n : Int) :
    execute env p (.loadImm dst n) ⟨regs, cursor⟩ = .ok .next ⟨regs.setInt dst n, cursor⟩ :=
  thenNext_eq (writeInt_eq fits inside n)

/-- Adding an immediate wraps around at the ends of a word. -/
theorem execute_addImm (fits : regs.Fits p) {dst : IntSlot} (inside : dst.index < p.intSlots)
    (n : Int) :
    execute env p (.addImm dst n) ⟨regs, cursor⟩ =
      .ok .next ⟨regs.setInt dst (Word.wrap (regs.int dst + n)), cursor⟩ := by
  refine thenNext_eq ?_
  simp only [bind, EStateM.bind, readInt_eq fits inside, writeInt_eq fits inside]

/-- Saving the position writes it as an integer, no further than the largest word. -/
theorem execute_savePos (fits : regs.Fits p) {dst : IntSlot} (inside : dst.index < p.intSlots) :
    execute env p (.savePos dst) ⟨regs, cursor⟩ =
      .ok .next ⟨regs.setInt dst (Word.clamp cursor.pos), cursor⟩ :=
  thenNext_eq (writeInt_eq fits inside _)

/-- A saved position is read back as the place it was. -/
theorem readPosition_eq (fits : regs.Fits p) {src : IntSlot} (inside : src.index < p.intSlots)
    {pos : Nat} (kept : regs.int src = pos) :
    readPosition p src ⟨regs, cursor⟩ = .ok pos ⟨regs, cursor⟩ := by
  simp only [readPosition, bind, EStateM.bind, readInt_eq fits inside, kept]
  rw [if_neg (by omega)]
  rfl

/-- Restoring a saved position goes back there if it is a boundary of the text. -/
theorem execute_restorePos (fits : regs.Fits p) {src : IntSlot} (inside : src.index < p.intSlots)
    {pos : Nat} (kept : regs.int src = pos) (boundary : Text.isBoundary env.text pos = true) :
    execute env p (.restorePos src) ⟨regs, cursor⟩ =
      .ok .next ⟨regs, ⟨pos, cursor.furthest⟩⟩ := by
  refine thenNext_eq ?_
  simp only [bind, EStateM.bind, readPosition_eq fits inside kept, seek, boundary, if_true]
  rfl

/-- There is no way back to a place inside a character. -/
theorem execute_restorePos_fault (fits : regs.Fits p) {src : IntSlot}
    (inside : src.index < p.intSlots) {pos : Nat} (kept : regs.int src = pos)
    (misplaced : Text.isBoundary env.text pos = false) :
    execute env p (.restorePos src) ⟨regs, cursor⟩ =
      .error (.badPosition p.name (Word.clamp pos)) ⟨regs, cursor⟩ := by
  simp only [execute, thenNext, bind, EStateM.bind, readPosition_eq fits inside kept, seek,
    misplaced]
  rfl

/-- What looking at the next character puts into a register. -/
def peeked (text : String) (pos : Nat) : Int :=
  match Text.charAt? text pos with
  | some c => c.toNat
  | none => -1

/-- Peeking writes the code of the next character and examines the place. -/
theorem execute_peekChar (fits : regs.Fits p) {dst : IntSlot} (inside : dst.index < p.intSlots) :
    execute env p (.peekChar dst) ⟨regs, cursor⟩ =
      .ok .next ⟨regs.setInt dst (peeked env.text cursor.pos),
        ⟨cursor.pos, max cursor.furthest cursor.pos⟩⟩ := by
  refine thenNext_eq ?_
  simp only [bind, EStateM.bind, peekChar, peeked]
  cases Text.charAt? env.text cursor.pos <;> exact writeInt_eq fits inside _

/-- Advancing skips some characters and examines what it skips. -/
theorem execute_advance (chars : Nat) :
    execute env p (.advance chars) ⟨regs, cursor⟩ =
      .ok .next ⟨regs, ⟨Text.skip env.text cursor.pos chars,
        max cursor.furthest (Text.skip env.text cursor.pos chars)⟩⟩ :=
  rfl

/-- Loading a constant writes the value of its pool entry. -/
theorem execute_loadConst (fits : regs.Fits p) {dst : ObjSlot} (inside : dst.index < p.objSlots)
    {index : ConstIndex} {v : Value} (found : p.consts[index.index]? = some (.value v)) :
    execute env p (.loadConst dst index) ⟨regs, cursor⟩ =
      .ok .next ⟨regs.setObj dst v, cursor⟩ := by
  refine thenNext_eq ?_
  simp only [bind, EStateM.bind, lookUp, Program.valueConst, found]
  exact writeObj_eq fits inside v

/-- Constructing writes the object that the model makes. -/
theorem execute_construct (fits : regs.Fits p) {dst : ObjSlot} (inside : dst.index < p.objSlots)
    {ty : String} {v : Value} (made : env.model.construct ty = some v) :
    execute env p (.construct dst ty) ⟨regs, cursor⟩ =
      .ok .next ⟨regs.setObj dst v, cursor⟩ := by
  refine thenNext_eq ?_
  simp only [made]
  exact writeObj_eq fits inside v

/-- Setting a field takes both the object and the value and puts the object back. -/
theorem execute_setField (fits : regs.Fits p) {obj src : ObjSlot} (inside : obj.index < p.objSlots)
    (inside' : src.index < p.objSlots) (differs : obj.index ≠ src.index) {field : String}
    {object : Value}
    (written : env.model.writeSlot (regs.obj obj) field (regs.obj src) = .ok object) :
    execute env p (.setField obj field src) ⟨regs, cursor⟩ =
      .ok .next ⟨((regs.setObj src .null).setObj obj .null).setObj obj object, cursor⟩ := by
  refine thenNext_eq ?_
  have fits' := fits.setObj src .null
  simp only [bind, EStateM.bind, takeObj_eq fits inside', takeObj_eq fits' inside,
    Registers.obj_setObj_of_ne differs, written]
  exact writeObj_eq (fits'.setObj obj .null) inside object

/-- Boxing writes the value that an integer stands for. -/
theorem execute_box (fits : regs.Fits p) {dst : ObjSlot} (inside : dst.index < p.objSlots)
    {src : IntSlot} (inside' : src.index < p.intSlots) {kind : ScalarKind} {v : Value}
    (boxed : kind.box? (regs.int src) = some v) :
    execute env p (.box dst src kind) ⟨regs, cursor⟩ =
      .ok .next ⟨regs.setObj dst v, cursor⟩ := by
  refine thenNext_eq ?_
  simp only [bind, EStateM.bind, readInt_eq fits inside', boxed]
  exact writeObj_eq fits inside v

/-- A new list is empty. -/
theorem execute_listNew (fits : regs.Fits p) {dst : ObjSlot} (inside : dst.index < p.objSlots) :
    execute env p (.listNew dst) ⟨regs, cursor⟩ =
      .ok .next ⟨regs.setObj dst (.list #[]), cursor⟩ :=
  thenNext_eq (writeObj_eq fits inside _)

/-- A new text is empty. -/
theorem execute_textNew (fits : regs.Fits p) {dst : ObjSlot} (inside : dst.index < p.objSlots) :
    execute env p (.textNew dst) ⟨regs, cursor⟩ =
      .ok .next ⟨regs.setObj dst (.str ""), cursor⟩ :=
  thenNext_eq (writeObj_eq fits inside _)

/-- Pushing to a list takes the item and puts it at the end. -/
theorem execute_listPush (fits : regs.Fits p) {list item : ObjSlot}
    (inside : list.index < p.objSlots) (inside' : item.index < p.objSlots)
    (differs : list.index ≠ item.index) {items : Array Value}
    (gathered : regs.obj list = .list items) :
    execute env p (.listPush list item) ⟨regs, cursor⟩ =
      .ok .next ⟨((regs.setObj item .null).setObj list .null).setObj list
        (.list (items.push (regs.obj item))), cursor⟩ := by
  refine thenNext_eq ?_
  have fits' := fits.setObj item .null
  simp only [bind, EStateM.bind, takeObj_eq fits inside', pushItem, takeObj_eq fits' inside,
    Registers.obj_setObj_of_ne differs, gathered]
  exact writeObj_eq (fits'.setObj list .null) inside _

/-- Pushing to a text takes the item and adds its text at the end. -/
theorem execute_textPush (fits : regs.Fits p) {text item : ObjSlot}
    (inside : text.index < p.objSlots) (inside' : item.index < p.objSlots)
    (differs : text.index ≠ item.index) {s t : String} (gathered : regs.obj text = .str s)
    (added : addedText (regs.obj item) = some t) :
    execute env p (.textPush text item) ⟨regs, cursor⟩ =
      .ok .next ⟨((regs.setObj item .null).setObj text .null).setObj text (.str (s ++ t)),
        cursor⟩ := by
  refine thenNext_eq ?_
  have fits' := fits.setObj item .null
  simp only [bind, EStateM.bind, takeObj_eq fits inside', pushText, takeObj_eq fits' inside,
    Registers.obj_setObj_of_ne differs, gathered]
  cases value : regs.obj item <;> rw [value] at added <;> cases added
  · rw [String.append_singleton]
    exact writeObj_eq (fits'.setObj text .null) inside _
  · exact writeObj_eq (fits'.setObj text .null) inside _

/-- Only texts and characters can be appended to a text. -/
theorem execute_textPush_fault (fits : regs.Fits p) {text item : ObjSlot}
    (inside : text.index < p.objSlots) (inside' : item.index < p.objSlots)
    (differs : text.index ≠ item.index) {s : String} (gathered : regs.obj text = .str s)
    (added : addedText (regs.obj item) = none) :
    ∃ regs', execute env p (.textPush text item) ⟨regs, cursor⟩ =
      .error (.valueKind p.name "str" (regs.obj item).typeName) ⟨regs', cursor⟩ := by
  have fits' := fits.setObj item .null
  refine ⟨(regs.setObj item .null).setObj text .null, ?_⟩
  simp only [execute, thenNext, bind, EStateM.bind, takeObj_eq fits inside', pushText,
    takeObj_eq fits' inside, Registers.obj_setObj_of_ne differs, gathered]
  cases value : regs.obj item
  case str => rw [value] at added; cases added
  case char => rw [value] at added; cases added
  all_goals rfl

/-- Pushing a character to a text adds it at the end. -/
theorem execute_textPushChar (fits : regs.Fits p) {text : ObjSlot} {item : IntSlot}
    (inside : text.index < p.objSlots) (inside' : item.index < p.intSlots) {s : String} {c : Char}
    (gathered : regs.obj text = .str s) (code : charOfCode? (regs.int item) = some c) :
    execute env p (.textPushChar text item) ⟨regs, cursor⟩ =
      .ok .next ⟨(regs.setObj text .null).setObj text (.str (s.push c)), cursor⟩ := by
  refine thenNext_eq ?_
  simp only [bind, EStateM.bind, readInt_eq fits inside', code, pushChar, takeObj_eq fits inside,
    gathered]
  exact writeObj_eq (fits.setObj text .null) inside _

/-- A slice writes the text between a saved position and the cursor. -/
theorem execute_slice (fits : regs.Fits p) {dst : ObjSlot} (inside : dst.index < p.objSlots)
    {start : IntSlot} (inside' : start.index < p.intSlots) {pos : Nat}
    (kept : regs.int start = pos) {text : String}
    (slice : Text.slice? env.text pos cursor.pos = some text) :
    execute env p (.slice dst start) ⟨regs, cursor⟩ =
      .ok .next ⟨regs.setObj dst (.str text), cursor⟩ := by
  refine thenNext_eq ?_
  simp only [bind, EStateM.bind, readPosition_eq fits inside' kept, position_eq, slice]
  exact writeObj_eq fits inside _

/-- No text starts or ends inside a character. -/
theorem execute_slice_fault (fits : regs.Fits p) {dst : ObjSlot} {start : IntSlot}
    (inside : start.index < p.intSlots) {pos : Nat} (kept : regs.int start = pos)
    (slice : Text.slice? env.text pos cursor.pos = none) :
    execute env p (.slice dst start) ⟨regs, cursor⟩ =
      .error (.badPosition p.name (Word.clamp pos)) ⟨regs, cursor⟩ := by
  simp only [execute, thenNext, bind, EStateM.bind, readPosition_eq fits inside kept, position_eq,
    pure, EStateM.pure, slice]
  rfl

/-! ## Jumps -/

/-- Going to a label goes to the place where it was marked. -/
theorem goTo_eq {label : Label} {pc : Nat} (place : p.labels[label.index]? = some (some pc)) :
    goTo p label ⟨regs, cursor⟩ = .ok (.goto pc) ⟨regs, cursor⟩ := by
  simp only [goTo, bind, EStateM.bind, lookUp, Program.target, place]
  rfl

/-- A jump goes to the place of its label. -/
theorem execute_jump {target : Label} {pc : Nat}
    (place : p.labels[target.index]? = some (some pc)) :
    execute env p (.jump target) ⟨regs, cursor⟩ = .ok (.goto pc) ⟨regs, cursor⟩ :=
  goTo_eq place

/-- The content of the right-hand side of a comparison. -/
def Registers.operand (regs : Registers) : Operand → Int
  | .slot slot => regs.int slot
  | .imm n => n

/-- The register of a right-hand side is one of the program. -/
def OperandInside (p : Program) : Operand → Prop
  | .slot slot => slot.index < p.intSlots
  | .imm _ => True

/-- A conditional jump goes to the place of its label if the condition holds. -/
theorem execute_jumpIf (fits : regs.Fits p) {cond : Cond} {a : IntSlot}
    (inside : a.index < p.intSlots) {b : Operand} (inside' : OperandInside p b) {target : Label}
    {pc : Nat} (place : p.labels[target.index]? = some (some pc)) :
    execute env p (.jumpIf cond a b target) ⟨regs, cursor⟩ =
      .ok (if cond.holds (regs.int a) (regs.operand b) then .goto pc else .next)
        ⟨regs, cursor⟩ := by
  cases b with
  | slot slot =>
    simp only [execute, bind, EStateM.bind, readInt_eq fits inside, readInt_eq fits inside',
      Registers.operand]
    by_cases taken : cond.holds (regs.int a) (regs.int slot) = true
    · simp only [taken, if_true]
      exact goTo_eq place
    · simp only [taken]
      rfl
  | imm n =>
    simp only [execute, bind, EStateM.bind, readInt_eq fits inside, Registers.operand, pure,
      EStateM.pure]
    by_cases taken : cond.holds (regs.int a) n = true
    · simp only [taken, if_true]
      exact goTo_eq place
    · simp only [taken]
      rfl

/-- A jump on equal objects goes to the place of its label if they are equal. -/
theorem execute_jumpIfObjEq (fits : regs.Fits p) {a b : ObjSlot} (inside : a.index < p.objSlots)
    (inside' : b.index < p.objSlots) {target : Label} {pc : Nat}
    (place : p.labels[target.index]? = some (some pc)) :
    execute env p (.jumpIfObjEq a b target) ⟨regs, cursor⟩ =
      .ok (if regs.obj a == regs.obj b then .goto pc else .next) ⟨regs, cursor⟩ := by
  simp only [execute, bind, EStateM.bind, readObj_eq fits inside, readObj_eq fits inside']
  by_cases same : (regs.obj a == regs.obj b) = true
  · simp only [same, if_true]
    exact goTo_eq place
  · simp only [same]
    rfl

/-! ## Operations on the text -/

/-- An operation that succeeds has its value stored. -/
theorem execute_invoke {native : Native} {args : List Slot} {dst : Option Slot} {onFail : Label}
    {v : Value} {between after : Local}
    (performed : perform env p args native ⟨regs, cursor⟩ = .ok (some v) between)
    (stored : storeValue p dst v between = .ok () after) :
    execute env p (.invoke native args dst onFail) ⟨regs, cursor⟩ = .ok .next after := by
  simp only [execute, bind, EStateM.bind, performed, thenNext, stored]
  rfl

/-- An operation that does not succeed leads to its label. -/
theorem execute_invoke_fail {native : Native} {args : List Slot} {dst : Option Slot}
    {onFail : Label} {pc : Nat} (place : p.labels[onFail.index]? = some (some pc))
    (performed : perform env p args native ⟨regs, cursor⟩ = .ok none ⟨regs, cursor⟩) :
    execute env p (.invoke native args dst onFail) ⟨regs, cursor⟩ =
      .ok (.goto pc) ⟨regs, cursor⟩ := by
  simp only [execute, bind, EStateM.bind, performed]
  exact goTo_eq place

/-- What an operation that may move forward over some text yields, and where it leads. -/
def consumed (regs : Registers) (cursor : Cursor) :
    Option (Nat × Value) → EStateM.Result EngineFault Local (Option Value)
  | some (stop, v) => .ok (some v) ⟨regs, ⟨stop, max cursor.furthest stop⟩⟩
  | none => .ok none ⟨regs, cursor⟩

/-- A regex leaf consumes what its pattern matches. -/
theorem perform_matchRegex {index : ConstIndex} {r : Regex} {args : List Slot}
    (found : p.consts[index.index]? = some (.regex r)) :
    perform env p args (.matchRegex index) ⟨regs, cursor⟩ =
      consumed regs cursor ((r.matchAt env.text cursor.pos).map fun stop =>
        (stop, .str (Text.between env.text cursor.pos stop))) := by
  simp only [perform, bind, EStateM.bind, lookUp, Program.regexConst, found, position_eq, pure,
    EStateM.pure]
  cases r.matchAt env.text cursor.pos <;> rfl

/-- A number leaf consumes the literal that was scanned. -/
theorem perform_parseNumber {kind : NumberKind} {args : List Slot} :
    perform env p args (.parseNumber kind) ⟨regs, cursor⟩ =
      consumed regs cursor ((Number.scanNumber kind
        (Text.runAt Number.isLiteralChar env.text cursor.pos)).map fun found =>
          (cursor.pos + found.1, found.2)) := by
  simp only [perform, bind, EStateM.bind, position_eq, pure]
  rcases Number.scanNumber kind (Text.runAt Number.isLiteralChar env.text cursor.pos) with
    _ | ⟨length, v⟩ <;> rfl

/-- Taking characters consumes as many as the register says, or fails. -/
theorem perform_takeChars (fits : regs.Fits p) {arg : IntSlot} (inside : arg.index < p.intSlots)
    {count : Nat} (kept : regs.int arg = count) :
    perform env p [.int arg] .takeChars ⟨regs, cursor⟩ =
      consumed regs cursor ((Text.skipExactly? env.text cursor.pos count).map fun stop =>
        (stop, .str (Text.between env.text cursor.pos stop))) := by
  simp only [perform, bind, EStateM.bind, readArg, readInt_eq fits inside, kept, position_eq,
    pure, EStateM.pure]
  rw [if_neg (by omega), Int.toNat_natCast]
  cases Text.skipExactly? env.text cursor.pos count <;> rfl

/-- Folding the case of a text consumes nothing. -/
theorem perform_foldCase (fits : regs.Fits p) {arg : ObjSlot} (inside : arg.index < p.objSlots)
    {text : String} (kept : regs.obj arg = .str text) :
    perform env p [.obj arg] .foldCase ⟨regs, cursor⟩ =
      .ok (some (.str (Text.lowerCase text))) ⟨regs, cursor⟩ := by
  simp only [perform, bind, EStateM.bind, readArg, readObj_eq fits inside, kept]
  rfl

/-- The user object is that of the environment. -/
theorem perform_userObject {args : List Slot} :
    perform env p args .userObject ⟨regs, cursor⟩ = .ok (some env.user) ⟨regs, cursor⟩ :=
  rfl

/-! ## Results -/

/-- A value is stored in an object register. -/
theorem storeValue_obj (fits : regs.Fits p) {dst : ObjSlot} (inside : dst.index < p.objSlots)
    (v : Value) :
    storeValue p (some (.obj dst)) v ⟨regs, cursor⟩ = .ok () ⟨regs.setObj dst v, cursor⟩ :=
  writeObj_eq fits inside v

/-- An integer value is stored in an integer register. -/
theorem storeValue_int (fits : regs.Fits p) {dst : IntSlot} (inside : dst.index < p.intSlots)
    (n : Int) :
    storeValue p (some (.int dst)) (.int n) ⟨regs, cursor⟩ =
      .ok () ⟨regs.setInt dst n, cursor⟩ :=
  writeInt_eq fits inside n

/-- The registers that a result is stored in are there. -/
def SlotInside (p : Program) : Option Slot → Prop
  | some (.int slot) => slot.index < p.intSlots
  | some (.obj slot) => slot.index < p.objSlots
  | none => True

/-- The product comes from the bank of the register, if there is one. -/
def Suits : Option Slot → Product → Prop
  | some (.int _), .int _ | some (.obj _), .obj _ | none, _ => True
  | _, _ => False

/-- A product is stored where it suits. -/
theorem storeProduct_eq (fits : regs.Fits p) {dst : Option Slot} (inside : SlotInside p dst)
    {product : Product} (suits : Suits dst product) :
    storeProduct p dst product ⟨regs, cursor⟩ = .ok () ⟨regs.store dst product, cursor⟩ := by
  rcases dst with _ | slot | slot
  · rfl
  · cases product with
    | int raw => exact writeInt_eq fits inside raw
    | void => exact suits.elim
    | obj v => exact suits.elim
  · cases product with
    | obj v => exact writeObj_eq fits inside v
    | void => exact suits.elim
    | int raw => exact suits.elim

/-- The product of a successful run, by the content of its result register. -/
def Registers.product (regs : Registers) : Option Slot → Product
  | none => .void
  | some (.int slot) => .int (regs.int slot)
  | some (.obj slot) => .obj (regs.obj slot)

/-- A return with success gives what the result register holds. -/
theorem execute_ret (fits : regs.Fits p) (inside : SlotInside p p.result) :
    ∃ regs', execute env p (.ret true) ⟨regs, cursor⟩ =
      .ok (.ret (some (regs.product p.result))) ⟨regs', cursor⟩ := by
  simp only [execute, bind, EStateM.bind, product]
  rcases result : p.result with _ | slot | slot
  · exact ⟨regs, rfl⟩
  · rw [result] at inside
    exact ⟨regs, by simp only [EStateM.bind, readInt_eq fits inside]; rfl⟩
  · rw [result] at inside
    exact ⟨regs.setObj slot .null, by simp only [EStateM.bind, takeObj_eq fits inside]; rfl⟩

end Packrat.Machine
