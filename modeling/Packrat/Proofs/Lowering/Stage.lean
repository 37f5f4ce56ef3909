import Packrat.Proofs.Lowering.Growth
import Packrat.Proofs.Machine.Conclusion

/-!
# Stages of a program

What each action of the assembler adds to a finished program, and what a run concludes that comes
to the code it adds. The rules are read backwards: what a run concludes at the stage before an
action follows from what it concludes at the stage after it.

* `Assembler.Still`: a stage that differs from another one by its tables and labels only.
* `concludes_savePos`, `concludes_jumpIf`, …: the actions that append an instruction.
* `concludes_failTail`: the shared end of a run that fails.
-/

namespace Packrat

open Assemble Machine
open Text (Within)

/-! ## Values of the constant table -/

namespace Value

/-- A value that equals a text is that text. -/
theorem eq_str_of_beq {w : Value} {text : String} (h : (w == .str text) = true) :
    w = .str text := by
  cases w <;> simp_all [BEq.beq, Value.beq]

/-- A value that equals `null` is `null`. -/
theorem eq_null_of_beq {w : Value} (h : (w == .null) = true) : w = .null := by
  cases w <;> simp_all [BEq.beq, Value.beq]

/-- Texts are equal as values just if they are equal. -/
theorem str_beq (text other : String) : ((Value.str text) == .str other) = (text == other) := rfl

end Value

/-! ## Stages without new code -/

/-- There is the same code and there are as many registers at both stages. -/
structure Assembler.Still (a b : Assembler) : Prop where
  code : b.code.size = a.code.size
  intSlots : b.intSlots = a.intSlots
  objSlots : b.objSlots = a.objSlots

/-- What two actions leave as it was is as it was. -/
theorem Assembler.Still.trans {a b c : Assembler} (first : a.Still b) (second : b.Still c) :
    a.Still c where
  code := second.code.trans first.code
  intSlots := second.intSlots.trans first.intSlots
  objSlots := second.objSlots.trans first.objSlots

section

variable {p : Program} {a b : Assembler}

/-- A new label adds no code and no registers. -/
theorem newLabel_still {l : Label} (h : newLabel a = (l, b)) : a.Still b := by
  cases h
  exact ⟨rfl, rfl, rfl⟩

/-- A label that is placed has its place in the finished program. -/
theorem mark_placed {l : Label} {u : Unit} (h : mark l a = (u, b)) (placed : Placed p b) :
    p.labels[l.index]? = some (some a.code.size) ∧ a.Still b := by
  have sound := placed.sound
  have labels := placed.labels l.index a.code.size
  rw [mark_eq] at h
  cases free : a.labels[l.index]? with
  | none =>
    rw [free] at h
    cases h
    exact absurd sound (Assembler.blame_fault a _)
  | some place =>
    cases place with
    | some pc =>
      rw [free] at h
      cases h
      exact absurd sound (Assembler.blame_fault a _)
    | none =>
      rw [free] at h
      cases h
      have inside : l.index < a.labels.size := (Array.getElem?_eq_some_iff.mp free).1
      exact ⟨labels (by simp [inside]), rfl, rfl, rfl⟩

/-! ## Registers -/

/-- A fresh integer register. -/
structure FreshInt (p : Program) (a : Assembler) (slot : IntSlot) (b : Assembler) : Prop where
  index : slot.index = a.intSlots
  intSlots : b.intSlots = a.intSlots + 1
  objSlots : b.objSlots = a.objSlots
  inside : slot.index < p.intSlots

/-- A fresh object register. -/
structure FreshObj (p : Program) (a : Assembler) (slot : ObjSlot) (b : Assembler) : Prop where
  index : slot.index = a.objSlots
  objSlots : b.objSlots = a.objSlots + 1
  intSlots : b.intSlots = a.intSlots
  inside : slot.index < p.objSlots

/-- A fresh register is in use from then on. -/
theorem FreshInt.used {slot : IntSlot} (fresh : FreshInt p a slot b) : slot.index < b.intSlots := by
  rw [fresh.intSlots, fresh.index]
  exact Nat.lt_succ_self _

/-- A fresh register is in use from then on. -/
theorem FreshObj.used {slot : ObjSlot} (fresh : FreshObj p a slot b) : slot.index < b.objSlots := by
  rw [fresh.objSlots, fresh.index]
  exact Nat.lt_succ_self _

/-- The register that is handed out is a fresh integer register. -/
theorem intSlot_fresh {slot : IntSlot} (h : intSlot a = (slot, b)) (placed : Placed p b) :
    FreshInt p a slot b ∧ b.code.size = a.code.size := by
  have sound := placed.sound
  have enough := placed.intSlots
  simp only [intSlot, modifyGet, MonadStateOf.modifyGet, StateT.modifyGet] at h
  generalize numbered : a.number a.intSlots "int slot" = result at h
  obtain ⟨i, a'⟩ := result
  cases h
  obtain ⟨rfl, rfl⟩ := Assembler.number_eq numbered sound
  exact ⟨⟨rfl, rfl, rfl, enough⟩, rfl⟩

/-- The register that is handed out is a fresh object register. -/
theorem objSlot_fresh {slot : ObjSlot} (h : objSlot a = (slot, b)) (placed : Placed p b) :
    FreshObj p a slot b ∧ b.code.size = a.code.size := by
  have sound := placed.sound
  have enough := placed.objSlots
  simp only [objSlot, modifyGet, MonadStateOf.modifyGet, StateT.modifyGet] at h
  generalize numbered : a.number a.objSlots "object slot" = result at h
  obtain ⟨i, a'⟩ := result
  cases h
  obtain ⟨rfl, rfl⟩ := Assembler.number_eq numbered sound
  exact ⟨⟨rfl, rfl, rfl, enough⟩, rfl⟩

/-- A fresh register for values of a type. -/
inductive FreshSlot (p : Program) (ty : OutputType) (a : Assembler) :
    Option Slot → Assembler → Prop where
  /-- There is none for no value. -/
  | void {b : Assembler} (void : ty = .void) (intSlots : b.intSlots = a.intSlots)
      (objSlots : b.objSlots = a.objSlots) : FreshSlot p ty a none b
  /-- There is one for scalars. -/
  | int {slot : IntSlot} {b : Assembler} (scalar : ty.isScalar = true)
      (fresh : FreshInt p a slot b) : FreshSlot p ty a (some (.int slot)) b
  /-- There is one for all else. -/
  | obj {slot : ObjSlot} {b : Assembler} (boxed : Boxed ty) (fresh : FreshObj p a slot b) :
      FreshSlot p ty a (some (.obj slot)) b

/-- There is one type without values. -/
theorem eq_void_of_isVoid {ty : OutputType} (void : ty.isVoid = true) : ty = .void := by
  cases ty <;> first | rfl | cases void

/-- The register that is handed out for a type is fresh. -/
theorem slotFor_fresh {ty : OutputType} {slot : Option Slot} (h : slotFor ty a = (slot, b))
    (placed : Placed p b) : FreshSlot p ty a slot b ∧ b.code.size = a.code.size := by
  unfold slotFor at h
  cases void : ty.isVoid with
  | true =>
    rw [void, if_pos rfl] at h
    cases h
    exact ⟨.void (eq_void_of_isVoid void) rfl rfl, rfl⟩
  | false =>
    rw [void, if_neg Bool.false_ne_true] at h
    cases scalar : ty.isScalar with
    | true =>
      rw [scalar, if_pos rfl] at h
      obtain ⟨dst, c, made, h', placed'⟩ := assemble_split h placed
      cases h'
      obtain ⟨fresh, size⟩ := intSlot_fresh made placed
      exact ⟨.int scalar fresh, size⟩
    | false =>
      rw [scalar, if_neg Bool.false_ne_true] at h
      obtain ⟨dst, c, made, h', placed'⟩ := assemble_split h placed
      cases h'
      obtain ⟨fresh, size⟩ := objSlot_fresh made placed
      exact ⟨.obj ⟨void, scalar⟩ fresh, size⟩

/-- A fresh register is none of the integer registers in use before, and these stay in use. -/
theorem FreshSlot.apart {ty : OutputType} {dst : Option Slot} {slot : IntSlot}
    (fresh : FreshSlot p ty a dst b) (used : slot.index < a.intSlots) :
    slot.index < b.intSlots ∧ dst ≠ some (.int slot) := by
  cases fresh with
  | void _ intSlots =>
    rw [intSlots]
    exact ⟨used, nofun⟩
  | obj _ fresh =>
    rw [fresh.intSlots]
    exact ⟨used, nofun⟩
  | int _ fresh =>
    rw [fresh.intSlots]
    refine ⟨Nat.lt_succ_of_lt used, ?_⟩
    rintro ⟨⟩
    exact Nat.ne_of_lt used fresh.index

/-- A register for results of a type. -/
inductive ResultSlot (p : Program) (ty : OutputType) : Option Slot → Prop where
  /-- There is none for no value. -/
  | void (void : ty = .void) : ResultSlot p ty none
  /-- An integer register for scalars. -/
  | int {slot : IntSlot} (scalar : ty.isScalar = true) (inside : slot.index < p.intSlots) :
      ResultSlot p ty (some (.int slot))
  /-- An object register for all else. -/
  | obj {slot : ObjSlot} (boxed : Boxed ty) (inside : slot.index < p.objSlots) :
      ResultSlot p ty (some (.obj slot))

/-- A fresh register for a type is one for its results. -/
theorem FreshSlot.result {ty : OutputType} {dst : Option Slot} (fresh : FreshSlot p ty a dst b) :
    ResultSlot p ty dst := by
  cases fresh with
  | void void => exact .void void
  | int scalar fresh => exact .int scalar fresh.inside
  | obj boxed fresh => exact .obj boxed fresh.inside

/-- The register is one of the program. -/
theorem ResultSlot.inside {ty : OutputType} {dst : Option Slot} (holds : ResultSlot p ty dst) :
    SlotInside p dst := by
  cases holds with
  | void => trivial
  | int _ inside => exact inside
  | obj _ inside => exact inside

/-- The register takes products of the type. -/
theorem ResultSlot.suits {ty : OutputType} {dst : Option Slot} (holds : ResultSlot p ty dst)
    {product : Product} {value : Option Value} (denotes : Denotes ty product value) :
    Suits dst product := by
  cases holds with
  | void => trivial
  | int scalar _ =>
    obtain ⟨_, _, rfl, _⟩ := denotes.of_scalar scalar
    trivial
  | obj boxed _ =>
    obtain ⟨_, rfl, _⟩ := denotes.of_boxed boxed
    trivial

/-! ## Tables -/

/-- A value constant is an entry that equals the value. -/
theorem valueConst_found {v : Value} {i : ConstIndex} (h : valueConst v a = (i, b))
    (placed : Placed p b) :
    (∃ w, p.consts[i.index]? = some (.value w) ∧ (w = v ∨ (w == v) = true)) ∧ a.Still b := by
  have sound := placed.sound
  have consts := placed.consts
  simp only [valueConst, modifyGet, MonadStateOf.modifyGet, StateT.modifyGet] at h
  cases there : a.consts.findIdx? (isValue v) with
  | some i' =>
    rw [there] at h
    dsimp only at h
    generalize numbered : a.number i' "constant" = result at h
    obtain ⟨j, a'⟩ := result
    cases h
    obtain ⟨rfl, rfl⟩ := Assembler.number_eq numbered sound
    obtain ⟨inside, equal, _⟩ := Array.findIdx?_eq_some_iff_getElem.mp there
    generalize entry : a.consts[i'] = c at equal
    have found : a.consts[i']? = some c := by rw [Array.getElem?_eq_getElem inside, entry]
    cases c with
    | regex r => cases equal
    | value w => exact ⟨⟨w, consts _ _ found, .inr equal⟩, rfl, rfl, rfl⟩
  | none =>
    rw [there] at h
    dsimp only at h
    generalize numbered : a.number a.consts.size "constant" = result at h
    obtain ⟨j, a'⟩ := result
    cases h
    obtain ⟨rfl, rfl⟩ := Assembler.number_eq numbered sound
    exact ⟨⟨v, consts _ _ Array.getElem?_push_size, .inl rfl⟩, rfl, rfl, rfl⟩

/-- A regular expression has an entry. -/
theorem regexConst_found {r : Regex} {i : ConstIndex} (h : regexConst r a = (i, b))
    (placed : Placed p b) : p.consts[i.index]? = some (.regex r) ∧ a.Still b := by
  have sound := placed.sound
  have consts := placed.consts
  simp only [regexConst, modifyGet, MonadStateOf.modifyGet, StateT.modifyGet] at h
  generalize numbered : a.number a.consts.size "constant" = result at h
  obtain ⟨j, a'⟩ := result
  cases h
  obtain ⟨rfl, rfl⟩ := Assembler.number_eq numbered sound
  exact ⟨consts _ _ Array.getElem?_push_size, rfl, rfl, rfl⟩

/-- A callee has an entry with a matcher. -/
theorem callee_found {rule : RuleId} {handle : Option Handle} {i : CalleeIndex}
    (h : callee rule handle a = (i, b)) (placed : Placed p b) :
    (∃ h, p.callees[i.index]? = some ⟨rule, some h⟩) ∧ a.Still b := by
  have calleeOf := placed.calleeOf rule i
  simp only [callee, modifyGet, MonadStateOf.modifyGet, StateT.modifyGet] at h
  cases known : a.calleeOf[rule]? with
  | some j =>
    rw [known] at h
    cases h
    exact ⟨calleeOf known, rfl, rfl, rfl⟩
  | none =>
    rw [known] at h
    dsimp only at h
    generalize numbered : a.number a.callees.size "callee" = result at h
    obtain ⟨j, a'⟩ := result
    have sound := placed.sound
    cases h
    obtain ⟨rfl, rfl⟩ := Assembler.number_eq numbered sound
    exact ⟨calleeOf (by simp), rfl, rfl, rfl⟩

/-! ## Code -/

/-- An instruction that is appended is there in the finished program. -/
theorem emit_found {i : Instruction} {u : Unit} (h : emit i a = (u, b)) (placed : Placed p b) :
    p.code[a.code.size]? = some i ∧ b.code.size = a.code.size + 1 ∧
      b.intSlots = a.intSlots ∧ b.objSlots = a.objSlots := by
  have code := placed.code a.code.size i
  cases h
  exact ⟨code Array.getElem?_push_size, Array.size_push i, rfl, rfl⟩

end

/-! ## Rules -/

namespace Lowering

variable {s : Scene} {Q : Goal} {a b : Assembler} {regs : Registers} {pos : Nat}
  {u : Unit}

/-- A stage without new code. -/
theorem concludes_still (still : a.Still b) (rest : s.Concludes Q b.code.size regs pos) :
    s.Concludes Q a.code.size regs pos :=
  still.code ▸ rest

/-- A jump goes to its label. -/
theorem concludes_jump {target : Label} {pc : Nat} (h : jump target a = (u, b))
    (placed : Placed s.program b) (place : s.program.labels[target.index]? = some (some pc))
    (rest : s.Concludes Q pc regs pos) : s.Concludes Q a.code.size regs pos :=
  .goto (emit_found h placed).1 (fun _ _ => execute_jump place) rest

/-- An instruction that goes to a place just if something holds, and on to the next one
otherwise. -/
theorem concludes_branch {i : Instruction} {holds : Bool} {pc : Nat} (h : emit i a = (u, b))
    (placed : Placed s.program b)
    (exec : regs.Fits s.program → ∀ furthest, execute s.env s.program i ⟨regs, ⟨pos, furthest⟩⟩ =
      .ok (if holds then .goto pc else .next) ⟨regs, ⟨pos, furthest⟩⟩)
    (taken : holds = true → s.Concludes Q pc regs pos)
    (passed : holds = false → s.Concludes Q b.code.size regs pos) :
    s.Concludes Q a.code.size regs pos := by
  obtain ⟨found, size, _⟩ := emit_found h placed
  cases holds with
  | true => exact .goto found (fun fits furthest => exec fits furthest) (taken rfl)
  | false =>
    exact .next found id id (fun fits furthest => ⟨furthest, exec fits furthest⟩)
      (size ▸ passed rfl)

/-- A jump on a comparison with a number goes to its label just if that holds. -/
theorem concludes_jumpIf {cond : Cond} {x : IntSlot} {n : Int} {target : Label} {pc : Nat}
    (h : jumpIf cond x n target a = (u, b)) (placed : Placed s.program b)
    (inside : x.index < s.program.intSlots)
    (place : s.program.labels[target.index]? = some (some pc))
    (taken : cond.holds (regs.int x) n = true → s.Concludes Q pc regs pos)
    (passed : cond.holds (regs.int x) n = false → s.Concludes Q b.code.size regs pos) :
    s.Concludes Q a.code.size regs pos := by
  have operand : OperandInside s.program (.imm n) := trivial
  exact concludes_branch h placed (fun fits _ => execute_jumpIf fits inside operand place) taken
    passed

/-- A jump on a comparison of two registers goes to its label just if that holds. -/
theorem concludes_jumpIfSlot {cond : Cond} {x y : IntSlot} {target : Label} {pc : Nat}
    (h : jumpIfSlot cond x y target a = (u, b)) (placed : Placed s.program b)
    (inside : x.index < s.program.intSlots) (inside' : y.index < s.program.intSlots)
    (place : s.program.labels[target.index]? = some (some pc))
    (taken : cond.holds (regs.int x) (regs.int y) = true → s.Concludes Q pc regs pos)
    (passed : cond.holds (regs.int x) (regs.int y) = false → s.Concludes Q b.code.size regs pos) :
    s.Concludes Q a.code.size regs pos := by
  have operand : OperandInside s.program (.slot y) := inside'
  exact concludes_branch h placed (fun fits _ => execute_jumpIf fits inside operand place) taken
    passed

/-- A jump on equal objects goes to its label just if they are equal. -/
theorem concludes_jumpIfObjEq {x y : ObjSlot} {target : Label} {pc : Nat}
    (h : emit (.jumpIfObjEq x y target) a = (u, b)) (placed : Placed s.program b)
    (inside : x.index < s.program.objSlots) (inside' : y.index < s.program.objSlots)
    (place : s.program.labels[target.index]? = some (some pc))
    (taken : (regs.obj x == regs.obj y) = true → s.Concludes Q pc regs pos)
    (passed : (regs.obj x == regs.obj y) = false → s.Concludes Q b.code.size regs pos) :
    s.Concludes Q a.code.size regs pos :=
  concludes_branch h placed (fun fits _ => execute_jumpIfObjEq fits inside inside' place) taken
    passed

/-- A run that ends without success. -/
theorem concludes_fail (h : ret false a = (u, b)) (placed : Placed s.program b)
    (holds : Q .failed) : s.Concludes Q a.code.size regs pos := by
  have realizes (furthest : Nat) (book : Book) :
      Realizes s.program.output .failed (.ok none, ⟨⟨pos, furthest⟩, book⟩) := rfl
  exact .ret (emit_found h placed).1 (fun _ _ => ⟨regs, rfl⟩) realizes holds

/-- A run that ends with the content of its result register. -/
theorem concludes_succeed (h : ret true a = (u, b)) (placed : Placed s.program b)
    (inside : SlotInside s.program s.program.result) {value : Option Value}
    (denotes : Denotes s.program.output (regs.product s.program.result) value)
    (holds : Q (.matched value pos)) : s.Concludes Q a.code.size regs pos := by
  have realizes (furthest : Nat) (book : Book) : Realizes s.program.output (.matched value pos)
      (.ok (some (regs.product s.program.result)), ⟨⟨pos, furthest⟩, book⟩) :=
    ⟨_, rfl, denotes, rfl⟩
  exact .ret (emit_found h placed).1 (fun fits _ => execute_ret fits inside) realizes holds

/-- A run without a result register. -/
theorem concludes_succeed_void (h : ret true a = (u, b)) (placed : Placed s.program b)
    (result : s.program.result = none) (output : s.program.output = .void)
    (holds : Q (.matched none pos)) : s.Concludes Q a.code.size regs pos := by
  refine concludes_succeed h placed ?_ ?_ holds
  · rw [result]
    trivial
  · rw [result, output]
    exact .void

/-- A run with its result in an object register. -/
theorem concludes_succeed_obj {out : ObjSlot} {v : Value} (h : ret true a = (u, b))
    (placed : Placed s.program b) (result : s.program.result = some (.obj out))
    (inside : out.index < s.program.objSlots) (boxed : Boxed s.program.output)
    (held : regs.obj out = v) (holds : Q (.matched (some v) pos)) :
    s.Concludes Q a.code.size regs pos := by
  refine concludes_succeed h placed ?_ ?_ holds
  · rw [result]
    exact inside
  · rw [result, Registers.product, held]
    exact .boxed boxed v

/-- A run with a character as its result. -/
theorem concludes_succeed_char {out : IntSlot} {c : Char} (h : ret true a = (u, b))
    (placed : Placed s.program b) (result : s.program.result = some (.int out))
    (inside : out.index < s.program.intSlots) (output : s.program.output = .char)
    (held : regs.int out = c.toNat) (holds : Q (.matched (some (.char c)) pos)) :
    s.Concludes Q a.code.size regs pos := by
  refine concludes_succeed h placed ?_ ?_ holds
  · rw [result]
    exact inside
  · rw [result, Registers.product, held, output]
    exact .char c

/-- A run with an integer as its result. -/
theorem concludes_succeed_int {out : IntSlot} {n : Int} (h : ret true a = (u, b))
    (placed : Placed s.program b) (result : s.program.result = some (.int out))
    (inside : out.index < s.program.intSlots) (output : s.program.output = .int)
    (held : regs.int out = n) (holds : Q (.matched (some (.int n)) pos)) :
    s.Concludes Q a.code.size regs pos := by
  refine concludes_succeed h placed ?_ ?_ holds
  · rw [result]
    exact inside
  · rw [result, Registers.product, held, output]
    exact .int n

/-- An instruction that sets an integer register. -/
theorem concludes_setInt {i : Instruction} {dst : IntSlot} {n : Int} (h : emit i a = (u, b))
    (placed : Placed s.program b) (exec : regs.Fits s.program → ∀ furthest, ∃ furthest',
      execute s.env s.program i ⟨regs, ⟨pos, furthest⟩⟩ =
        .ok .next ⟨regs.setInt dst n, ⟨pos, furthest'⟩⟩)
    (rest : s.Concludes Q b.code.size (regs.setInt dst n) pos) :
    s.Concludes Q a.code.size regs pos := by
  obtain ⟨found, size, _⟩ := emit_found h placed
  exact .next found (fun fits => fits.setInt dst n) id exec (size ▸ rest)

/-- An instruction that sets an object register. -/
theorem concludes_setObj {i : Instruction} {dst : ObjSlot} {v : Value} (h : emit i a = (u, b))
    (placed : Placed s.program b) (exec : regs.Fits s.program → ∀ furthest,
      execute s.env s.program i ⟨regs, ⟨pos, furthest⟩⟩ =
        .ok .next ⟨regs.setObj dst v, ⟨pos, furthest⟩⟩)
    (rest : s.Concludes Q b.code.size (regs.setObj dst v) pos) :
    s.Concludes Q a.code.size regs pos := by
  obtain ⟨found, size, _⟩ := emit_found h placed
  exact .next found (fun fits => fits.setObj dst v) id
    (fun fits furthest => ⟨furthest, exec fits furthest⟩) (size ▸ rest)

/-- A number that is loaded is in its register. -/
theorem concludes_loadImm {dst : IntSlot} {n : Int} (h : emit (.loadImm dst n) a = (u, b))
    (placed : Placed s.program b) (inside : dst.index < s.program.intSlots)
    (rest : s.Concludes Q b.code.size (regs.setInt dst n) pos) :
    s.Concludes Q a.code.size regs pos :=
  concludes_setInt h placed
    (fun fits furthest => ⟨furthest, execute_loadImm fits inside n⟩) rest

/-- A number that is added wraps around in its register. -/
theorem concludes_addImm {dst : IntSlot} {n : Int} (h : emit (.addImm dst n) a = (u, b))
    (placed : Placed s.program b) (inside : dst.index < s.program.intSlots)
    (rest : s.Concludes Q b.code.size (regs.setInt dst (Word.wrap (regs.int dst + n))) pos) :
    s.Concludes Q a.code.size regs pos :=
  concludes_setInt h placed
    (fun fits furthest => ⟨furthest, execute_addImm fits inside n⟩) rest

/-- The code point of the next character is in its register. -/
theorem concludes_peekChar {dst : IntSlot} (h : emit (.peekChar dst) a = (u, b))
    (placed : Placed s.program b) (inside : dst.index < s.program.intSlots)
    (rest : s.Concludes Q b.code.size (regs.setInt dst (peeked s.env.text pos)) pos) :
    s.Concludes Q a.code.size regs pos :=
  concludes_setInt h placed
    (fun fits furthest => ⟨max furthest pos, execute_peekChar fits inside⟩) rest

/-- A character is consumed. -/
theorem concludes_advance {c : Char} {rest : List Char} (h : emit (.advance 1) a = (u, b))
    (placed : Placed s.program b) (here : Text.following s.env.text pos = c :: rest)
    (next : s.Concludes Q b.code.size regs (pos + c.utf8Size)) :
    s.Concludes Q a.code.size regs pos := by
  obtain ⟨found, size, _⟩ := emit_found h placed
  have first : Text.charAt? s.env.text pos = some c := by
    rw [Text.charAt?_eq_head?, here, List.head?_cons]
  refine .next found id (fun within => within.trans (.of_charAt? first))
    (fun fits furthest => ⟨max furthest (pos + c.utf8Size), ?_⟩) (size ▸ next)
  rw [execute_advance, Text.skip_one, first]

/-- The position is kept exactly. -/
theorem clamp_eq (sound : s.Sound) (within : Within s.env.text s.start pos) :
    Word.clamp pos = pos := by
  have short := sound.short
  have le := within.le_size sound.start_le
  unfold Word.clamp Word.greatest
  omega

/-- The position that is saved is in its register. -/
theorem concludes_savePos (sound : s.Sound) {dst : IntSlot} (h : savePos a = (dst, b))
    (placed : Placed s.program b)
    (rest : s.Concludes Q b.code.size (regs.setInt dst pos) pos) :
    s.Concludes Q a.code.size regs pos := by
  obtain ⟨slot, c, fresh, h, placed'⟩ := assemble_split h placed
  obtain ⟨_, d, emitted, h, placed''⟩ := assemble_split h placed
  cases h
  obtain ⟨⟨_, _, _, inside⟩, same⟩ := intSlot_fresh fresh placed'
  refine .intro fun _ within => ?_
  rw [← same]
  refine concludes_setInt emitted placed (fun fits furthest => ⟨furthest, ?_⟩) rest
  rw [execute_savePos fits inside, clamp_eq sound within]

/-- The register of a position that is saved is fresh. -/
theorem savePos_fresh {p : Program} {dst : IntSlot} (h : savePos a = (dst, b))
    (placed : Placed p b) : FreshInt p a dst b := by
  obtain ⟨slot, c, fresh, h, placed'⟩ := assemble_split h placed
  obtain ⟨_, d, emitted, h, placed''⟩ := assemble_split h placed
  cases h
  obtain ⟨⟨index, intSlots, objSlots, inside⟩, _⟩ := intSlot_fresh fresh placed'
  obtain ⟨_, _, intSlots', objSlots'⟩ := emit_found emitted placed
  exact ⟨index, by rw [intSlots', intSlots], by rw [objSlots', objSlots], inside⟩

/-- A position that is restored is the one that was saved. -/
theorem concludes_restorePos {src : IntSlot} {pos' : Nat} (h : restorePos src a = (u, b))
    (placed : Placed s.program b) (inside : src.index < s.program.intSlots)
    (kept : regs.int src = pos') (within : Within s.env.text s.start pos')
    (rest : s.Concludes Q b.code.size regs pos') : s.Concludes Q a.code.size regs pos := by
  obtain ⟨found, size, _⟩ := emit_found h placed
  cases boundary : Text.isBoundary s.env.text pos' with
  | true =>
    exact .next found id (fun _ => within)
      (fun fits furthest => ⟨furthest, execute_restorePos fits inside kept boundary⟩) (size ▸ rest)
  | false =>
    refine .fault found
      (fun fits furthest => ⟨regs, execute_restorePos_fault fits inside kept boundary⟩)
      (.inr ⟨?_, _, _, rfl⟩)
    cases start : Text.isBoundary s.env.text s.start with
    | false => rfl
    | true =>
      rw [within.isBoundary start] at boundary
      cases boundary

/-- The text from a kept position on. -/
theorem concludes_slice {dst : ObjSlot} {start : IntSlot}
    (h : emit (.slice dst start) a = (u, b)) (placed : Placed s.program b)
    (inside : dst.index < s.program.objSlots) (inside' : start.index < s.program.intSlots)
    (kept : regs.int start = s.start) (within : Within s.env.text s.start pos)
    (rest : s.Concludes Q b.code.size
      (regs.setObj dst (.str (Text.between s.env.text s.start pos))) pos) :
    s.Concludes Q a.code.size regs pos := by
  cases slice : Text.slice? s.env.text s.start pos with
  | some text =>
    refine concludes_setObj h placed
      (fun fits _ => execute_slice fits inside inside' kept slice) ?_
    rw [Text.between, slice] at rest
    exact rest
  | none =>
    refine .fault (emit_found h placed).1
      (fun fits _ => ⟨regs, execute_slice_fault fits inside' kept slice⟩) (.inr ⟨?_, _, _, rfl⟩)
    cases start : Text.isBoundary s.env.text s.start with
    | false => rfl
    | true =>
      obtain ⟨text, found⟩ := within.exists_slice start
      rw [slice] at found
      cases found

/-- A scalar that is boxed is in its object register as a value. -/
theorem concludes_box {dst : ObjSlot} {src : IntSlot} {kind : ScalarKind} {v : Value}
    (h : emit (.box dst src kind) a = (u, b)) (placed : Placed s.program b)
    (inside : dst.index < s.program.objSlots) (inside' : src.index < s.program.intSlots)
    (boxed : kind.box? (regs.int src) = some v)
    (rest : s.Concludes Q b.code.size (regs.setObj dst v) pos) :
    s.Concludes Q a.code.size regs pos :=
  concludes_setObj h placed (fun fits _ => execute_box fits inside inside' boxed) rest

/-- A value that is loaded is in its register, if no other value equals it. -/
theorem concludes_loadValue {dst : ObjSlot} {v : Value}
    (alone : ∀ w : Value, (w == v) = true → w = v) (h : loadValue dst v a = (u, b))
    (placed : Placed s.program b) (inside : dst.index < s.program.objSlots)
    (rest : s.Concludes Q b.code.size (regs.setObj dst v) pos) :
    s.Concludes Q a.code.size regs pos := by
  obtain ⟨index, c, numbered, emitted, placed'⟩ := assemble_split h placed
  obtain ⟨⟨w, found, same⟩, still⟩ := valueConst_found numbered placed'
  obtain rfl : w = v := same.elim id (alone w)
  exact concludes_still still (concludes_setObj emitted placed
    (fun fits _ => execute_loadConst fits inside found) rest)

/-- A text that is loaded is in its register. -/
theorem concludes_loadText {dst : ObjSlot} {text : String}
    (h : loadValue dst (.str text) a = (u, b)) (placed : Placed s.program b)
    (inside : dst.index < s.program.objSlots)
    (rest : s.Concludes Q b.code.size (regs.setObj dst (.str text)) pos) :
    s.Concludes Q a.code.size regs pos :=
  concludes_loadValue (fun _ => Value.eq_str_of_beq) h placed inside rest

/-- The value `null`, when it is loaded, is in its register. -/
theorem concludes_loadNull {dst : ObjSlot} (h : loadValue dst .null a = (u, b))
    (placed : Placed s.program b) (inside : dst.index < s.program.objSlots)
    (rest : s.Concludes Q b.code.size (regs.setObj dst .null) pos) :
    s.Concludes Q a.code.size regs pos :=
  concludes_loadValue (fun _ => Value.eq_null_of_beq) h placed inside rest

/-- A field is written; the object stays in its register. -/
theorem concludes_setField {obj src : ObjSlot} {field : String} {object : Value}
    (h : emit (.setField obj field src) a = (u, b)) (placed : Placed s.program b)
    (inside : obj.index < s.program.objSlots) (inside' : src.index < s.program.objSlots)
    (differs : obj.index ≠ src.index)
    (written : s.env.model.writeSlot (regs.obj obj) field (regs.obj src) = .ok object)
    (rest : ∀ regs', (∀ slot, regs'.int slot = regs.int slot) → regs'.obj obj = object →
      s.Concludes Q b.code.size regs' pos) : s.Concludes Q a.code.size regs pos := by
  obtain ⟨found, size, _⟩ := emit_found h placed
  refine .intro fun fits _ => ?_
  have fits' := (fits.setObj src .null).setObj obj .null
  exact .next found (fun _ => fits'.setObj obj object) id
    (fun fits furthest => ⟨furthest, execute_setField fits inside inside' differs written⟩)
    (size ▸ rest _ (fun _ => rfl) (Registers.obj_setObj fits' inside object))

/-- An item is appended to a list. -/
theorem concludes_listPush {list item : ObjSlot} {items : Array Value}
    (h : emit (.listPush list item) a = (u, b)) (placed : Placed s.program b)
    (inside : list.index < s.program.objSlots) (inside' : item.index < s.program.objSlots)
    (differs : list.index ≠ item.index) (gathered : regs.obj list = .list items)
    (rest : ∀ regs', (∀ slot, regs'.int slot = regs.int slot) →
      regs'.obj list = .list (items.push (regs.obj item)) → s.Concludes Q b.code.size regs' pos) :
    s.Concludes Q a.code.size regs pos := by
  obtain ⟨found, size, _⟩ := emit_found h placed
  refine .intro fun fits _ => ?_
  have fits' := (fits.setObj item .null).setObj list .null
  exact .next found (fun _ => fits'.setObj list _) id
    (fun fits furthest => ⟨furthest, execute_listPush fits inside inside' differs gathered⟩)
    (size ▸ rest _ (fun _ => rfl) (Registers.obj_setObj fits' inside _))

/-- A text or a character is appended to a text; anything else is a fault. -/
theorem concludes_textPush {text item : ObjSlot} {gathered : String}
    (h : emit (.textPush text item) a = (u, b)) (placed : Placed s.program b)
    (inside : text.index < s.program.objSlots) (inside' : item.index < s.program.objSlots)
    (differs : text.index ≠ item.index) (held : regs.obj text = .str gathered)
    (added : ∀ more, Meaning.addedText (regs.obj item) = some more → ∀ regs',
      (∀ slot, regs'.int slot = regs.int slot) → regs'.obj text = .str (gathered ++ more) →
      s.Concludes Q b.code.size regs' pos)
    (refused : Meaning.addedText (regs.obj item) = none →
      Q (.faulted (.valueKind s.program.name "str" (regs.obj item).typeName))) :
    s.Concludes Q a.code.size regs pos := by
  obtain ⟨found, size, _⟩ := emit_found h placed
  refine .intro fun fits _ => ?_
  have fits' := (fits.setObj item .null).setObj text .null
  cases adds : Meaning.addedText (regs.obj item) with
  | some more =>
    exact .next found (fun _ => fits'.setObj text _) id
      (fun fits furthest => ⟨furthest, execute_textPush fits inside inside' differs held adds⟩)
      (size ▸ added more adds _ (fun _ => rfl) (Registers.obj_setObj fits' inside _))
  | none =>
    exact .fault found
      (fun fits _ => execute_textPush_fault fits inside inside' differs held adds)
      (.inl (refused adds))

/-- A character is appended to a text. -/
theorem concludes_textPushChar {text : ObjSlot} {item : IntSlot} {gathered : String} {c : Char}
    (h : emit (.textPushChar text item) a = (u, b)) (placed : Placed s.program b)
    (inside : text.index < s.program.objSlots) (inside' : item.index < s.program.intSlots)
    (held : regs.obj text = .str gathered) (code : charOfCode? (regs.int item) = some c)
    (rest : ∀ regs', (∀ slot, regs'.int slot = regs.int slot) →
      regs'.obj text = .str (gathered.push c) → s.Concludes Q b.code.size regs' pos) :
    s.Concludes Q a.code.size regs pos := by
  obtain ⟨found, size, _⟩ := emit_found h placed
  refine .intro fun fits _ => ?_
  have fits' := fits.setObj text .null
  exact .next found (fun _ => fits'.setObj text _) id
    (fun fits furthest => ⟨furthest, execute_textPushChar fits inside inside' held code⟩)
    (size ▸ rest _ (fun _ => rfl) (Registers.obj_setObj fits' inside _))

/-- An operation on the text that succeeds. -/
theorem concludes_invoke {native : Native} {args : List Slot} {dst : Option Slot} {onFail : Label}
    {regs' : Registers} {stop : Nat} {v : Value} (h : invoke native args dst onFail a = (u, b))
    (placed : Placed s.program b) (performs : regs.Fits s.program → ∀ furthest, ∃ furthest',
      perform s.env s.program args native ⟨regs, ⟨pos, furthest⟩⟩ =
        .ok (some v) ⟨regs, ⟨stop, furthest'⟩⟩)
    (within : Within s.env.text pos stop) (fits : regs.Fits s.program → regs'.Fits s.program)
    (stores : regs.Fits s.program → ∀ cursor,
      storeValue s.program dst v ⟨regs, cursor⟩ = .ok () ⟨regs', cursor⟩)
    (rest : s.Concludes Q b.code.size regs' stop) : s.Concludes Q a.code.size regs pos := by
  obtain ⟨found, size, _⟩ := emit_found h placed
  refine .next found fits (fun here => here.trans within) (fun fit furthest => ?_) (size ▸ rest)
  obtain ⟨furthest', performed⟩ := performs fit furthest
  exact ⟨furthest', execute_invoke performed (stores fit _)⟩

/-- An operation on the text that does not succeed. -/
theorem concludes_invoke_fail {native : Native} {args : List Slot} {dst : Option Slot}
    {onFail : Label} {pc : Nat} (h : invoke native args dst onFail a = (u, b))
    (placed : Placed s.program b) (place : s.program.labels[onFail.index]? = some (some pc))
    (performs : regs.Fits s.program → ∀ furthest,
      perform s.env s.program args native ⟨regs, ⟨pos, furthest⟩⟩ =
        .ok none ⟨regs, ⟨pos, furthest⟩⟩)
    (rest : s.Concludes Q pc regs pos) : s.Concludes Q a.code.size regs pos :=
  .goto (emit_found h placed).1
    (fun fit furthest => execute_invoke_fail place (performs fit furthest)) rest

/-! ## Ends of runs -/

/-- The shared end of a run that fails has its place, and a run that comes to it fails. -/
theorem concludes_failTail {fail : Label} {start : Option IntSlot}
    (h : failTail fail start a = (u, b)) (placed : Placed s.program b) :
    s.program.labels[fail.index]? = some (some a.code.size) ∧
      ∀ (Q : Goal) (regs : Registers) (pos : Nat),
        (∀ slot, start = some slot →
          slot.index < s.program.intSlots ∧ regs.int slot = s.start) →
        Q .failed → s.Concludes Q a.code.size regs pos := by
  obtain ⟨_, c, marked, h, placed'⟩ := assemble_split h placed
  obtain ⟨_, d, back, returned, placed''⟩ := assemble_split h placed
  obtain ⟨place, still⟩ := mark_placed marked placed'
  refine ⟨place, fun Q regs pos kept holds => concludes_still still ?_⟩
  cases start with
  | none =>
    cases back
    exact concludes_fail returned placed holds
  | some slot =>
    obtain ⟨inside, kept⟩ := kept slot rfl
    exact concludes_restorePos back placed'' inside kept .refl
      (concludes_fail returned placed holds)

end Lowering

end Packrat
