import Packrat.Proofs.Lowering.Stage

/-!
# Calls of children

What a run concludes that comes to a call of a child, for each of the ways to call one. The child
comes out in some way; behind a match its value is where it is asked for, and registers that were
in use before are as they were.

* `Keeps`: registers in use at a stage are as they were.
* `concludes_callVoid`, `concludes_callNatural`, `concludes_callObject`, `concludes_callInto`.
-/

namespace Packrat.Lowering

open Assemble Machine
open Text (Within)

/-! ## Registers in use -/

/-- The registers in use at a stage are as they were. -/
structure Keeps (a : Assembler) (regs regs' : Registers) : Prop where
  int : ∀ slot : IntSlot, slot.index < a.intSlots → regs'.int slot = regs.int slot
  obj : ∀ slot : ObjSlot, slot.index < a.objSlots → regs'.obj slot = regs.obj slot

namespace Keeps

variable {a : Assembler} {regs regs' regs'' : Registers}

/-- Registers that are kept twice are as they were. -/
theorem trans (first : Keeps a regs regs') (second : Keeps a regs' regs'') :
    Keeps a regs regs'' where
  int slot used := (second.int slot used).trans (first.int slot used)
  obj slot used := (second.obj slot used).trans (first.obj slot used)

/-- A register that is not in use may be set. -/
theorem setInt {dst : IntSlot} (fresh : a.intSlots ≤ dst.index) (n : Int) :
    Keeps a regs (regs.setInt dst n) where
  int slot used := Registers.int_setInt_of_ne (by omega) n
  obj _ _ := rfl

/-- A register that is not in use may be set. -/
theorem setObj {dst : ObjSlot} (fresh : a.objSlots ≤ dst.index) (v : Value) :
    Keeps a regs (regs.setObj dst v) where
  int _ _ := rfl
  obj slot used := Registers.obj_setObj_of_ne (by omega) v

end Keeps

/-! ## Calls -/

variable {s : Scene} {Q : Goal} {cx : Context} {a b : Assembler} {regs : Registers}
  {pos pc : Nat} {u : Unit} {child : RuleId} {name : Option String} {onFail : Label}

/-- A request adds nothing to the program. -/
theorem Emits.requested (h : Emits (request child) a u b) : a = b := by
  obtain ⟨requests, requests', h⟩ := h
  cases h
  rfl

/-- A call of a child that may go on in every way that the child may come out. -/
structure Continues (s : Scene) (Q : Goal) (child : RuleId) (pos pc : Nat) (regs : Registers)
    (matched : Option Value → Nat → Goal → Prop) : Prop where
  matched : ∀ value stop book, s.child child pos Q.book (.matched value stop) book →
    Within s.env.text pos stop → (∃ product, Denotes (s.grammar.outputOf child) product value) →
    matched value stop (Q.at book)
  failed : ∀ book, s.child child pos Q.book .failed book → s.Concludes (Q.at book) pc regs pos
  faulted : ∀ fault book, s.child child pos Q.book (.faulted fault) book →
    Q.at book (.faulted fault)

/-- A call goes on in every way that its child may come out, with the product in the register for
it. -/
theorem concludes_callRule (sound : s.Sound) {dst : Option Slot}
    (h : callRule child name dst onFail a = (u, b)) (placed : Placed s.program b)
    (place : s.program.labels[onFail.index]? = some (some pc))
    (inside : SlotInside s.program dst)
    (suits : ∀ product value, Denotes (s.grammar.outputOf child) product value →
      Suits dst product)
    (goesOn : Continues s Q child pos pc regs fun value stop Q =>
      ∀ product, Denotes (s.grammar.outputOf child) product value →
        s.Concludes Q b.code.size (regs.store dst product) stop) :
    s.Concludes Q a.code.size regs pos := by
  obtain ⟨index, c, numbered, emitted, placed'⟩ := assemble_split h placed
  obtain ⟨⟨handle, entry⟩, still⟩ := callee_found numbered placed'
  obtain ⟨found, size, _⟩ := emit_found emitted placed
  rw [← still.code]
  refine .call sound found entry place inside suits ?_ goesOn.failed goesOn.faulted
  intro product value stop book comes denotes within
  rw [← size]
  exact goesOn.matched value stop book comes within ⟨product, denotes⟩ product denotes

/-- A child is called into a register for results of its type. -/
theorem concludes_callResult (sound : s.Sound) (grammar : s.grammar = cx.grammar)
    {dst : Option Slot} (result : ResultSlot s.program (cx.grammar.outputOf child) dst)
    (h : callRule child name dst onFail a = (u, b)) (placed : Placed s.program b)
    (place : s.program.labels[onFail.index]? = some (some pc))
    (goesOn : Continues s Q child pos pc regs fun value stop Q =>
      ∀ product, Denotes (cx.grammar.outputOf child) product value →
        s.Concludes Q b.code.size (regs.store dst product) stop) :
    s.Concludes Q a.code.size regs pos := by
  rw [← grammar] at goesOn result
  exact concludes_callRule sound h placed place result.inside
    (fun _ _ denotes => result.suits denotes) goesOn

/-- A call takes no registers. -/
theorem callRule_slots {p : Program} {dst : Option Slot}
    (h : callRule child name dst onFail a = (u, b)) (placed : Placed p b) :
    b.intSlots = a.intSlots ∧ b.objSlots = a.objSlots := by
  obtain ⟨index, c, numbered, emitted, placed'⟩ := assemble_split h placed
  have still := (callee_found numbered placed').2
  obtain ⟨_, _, intSlots, objSlots⟩ := emit_found emitted placed
  exact ⟨intSlots.trans still.intSlots, objSlots.trans still.objSlots⟩

/-- A call without a result goes on in every way that its child may come out. -/
theorem concludes_callVoid (sound : s.Sound) (h : Emits (callVoid child name onFail) a u b)
    (placed : Placed s.program b) (place : s.program.labels[onFail.index]? = some (some pc))
    (goesOn : Continues s Q child pos pc regs fun _ stop Q => s.Concludes Q b.code.size regs stop) :
    s.Concludes Q a.code.size regs pos := by
  obtain ⟨_, c, requested, h, _⟩ := h.split placed
  obtain rfl := requested.requested
  refine concludes_callRule sound h.assembled placed place trivial (fun _ _ _ => trivial)
    ⟨?_, goesOn.failed, goesOn.faulted⟩
  intro value stop book comes within typed product _
  exact goesOn.matched value stop book comes within typed

/-- A call without a result takes no registers. -/
theorem callVoid_slots {p : Program} (h : Emits (callVoid child name onFail) a u b)
    (placed : Placed p b) : b.intSlots = a.intSlots ∧ b.objSlots = a.objSlots := by
  obtain ⟨_, c, requested, h, _⟩ := h.split placed
  obtain rfl := requested.requested
  exact callRule_slots h.assembled placed

/-- The register that a child is called into is a fresh one for results of its type. -/
theorem callNatural_fresh {p : Program} {dst : Option Slot}
    (h : Emits (callNatural cx child name onFail) a dst b) (placed : Placed p b) :
    FreshSlot p (cx.grammar.outputOf child) a dst b := by
  obtain ⟨_, c, requested, h, _⟩ := h.split placed
  obtain rfl := requested.requested
  obtain ⟨dst', d, made, h, placed'⟩ := h.step placed
  obtain ⟨_, e, called, h, placed''⟩ := h.step placed
  obtain ⟨rfl, rfl⟩ := h.returned
  obtain ⟨intSlots, objSlots⟩ := callRule_slots called placed
  cases (slotFor_fresh made placed').1 with
  | void void intSlots' objSlots' =>
    exact .void void (intSlots.trans intSlots') (objSlots.trans objSlots')
  | int scalar fresh =>
    exact .int scalar ⟨fresh.index, intSlots.trans fresh.intSlots,
      objSlots.trans fresh.objSlots, fresh.inside⟩
  | obj boxed fresh =>
    exact .obj boxed ⟨fresh.index, objSlots.trans fresh.objSlots,
      intSlots.trans fresh.intSlots, fresh.inside⟩

/-- A call with a result goes on with the product in the register for the type of its child. -/
theorem concludes_callNatural (sound : s.Sound) (grammar : s.grammar = cx.grammar)
    {dst : Option Slot} (h : Emits (callNatural cx child name onFail) a dst b)
    (placed : Placed s.program b) (place : s.program.labels[onFail.index]? = some (some pc))
    (goesOn : Continues s Q child pos pc regs fun value stop Q =>
      ∀ product, Denotes (cx.grammar.outputOf child) product value →
        s.Concludes Q b.code.size (regs.store dst product) stop) :
    s.Concludes Q a.code.size regs pos := by
  have result := (callNatural_fresh h placed).result
  obtain ⟨_, c, requested, h, _⟩ := h.split placed
  obtain rfl := requested.requested
  obtain ⟨dst', d, made, h, placed'⟩ := h.step placed
  obtain ⟨_, e, called, h, placed''⟩ := h.step placed
  obtain ⟨rfl, rfl⟩ := h.returned
  rw [← (slotFor_fresh made placed').2]
  exact concludes_callResult sound grammar result called placed place goesOn

/-- The register that a child's value ends up in was not in use before. -/
theorem callObject_fresh {p : Program} {obj : ObjSlot}
    (h : Emits (callObject cx child name onFail) a obj b) (placed : Placed p b) :
    a.objSlots ≤ obj.index ∧ obj.index < p.objSlots := by
  obtain ⟨result, c, called, h, placed'⟩ := h.split placed
  have fresh := callNatural_fresh called placed'
  have boxing := h.assembled
  unfold boxed at boxing
  cases fresh with
  | void void _ objSlots =>
    obtain ⟨dst, d, made, boxing, placed''⟩ := assemble_split boxing placed
    obtain ⟨_, e, _, boxing, _⟩ := assemble_split boxing placed
    cases boxing
    obtain ⟨fresh, _⟩ := objSlot_fresh made placed''
    exact ⟨Nat.le_of_eq (fresh.index.trans objSlots).symm, fresh.inside⟩
  | int scalar fresh' =>
    obtain ⟨dst, d, made, boxing, placed''⟩ := assemble_split boxing placed
    obtain ⟨_, e, _, boxing, _⟩ := assemble_split boxing placed
    cases boxing
    obtain ⟨fresh, _⟩ := objSlot_fresh made placed''
    exact ⟨Nat.le_of_eq (fresh.index.trans fresh'.objSlots).symm, fresh.inside⟩
  | obj _ fresh =>
    cases boxing
    exact ⟨Nat.le_of_eq fresh.index.symm, fresh.inside⟩

/-- A call with a value goes on with the value in the object register for it. -/
theorem concludes_callObject (sound : s.Sound) (grammar : s.grammar = cx.grammar) {obj : ObjSlot}
    (h : Emits (callObject cx child name onFail) a obj b) (placed : Placed s.program b)
    (place : s.program.labels[onFail.index]? = some (some pc))
    (goesOn : Continues s Q child pos pc regs fun value stop Q =>
      ∀ regs', Keeps a regs regs' → regs'.obj obj = value.getD .null →
        s.Concludes Q b.code.size regs' stop) :
    s.Concludes Q a.code.size regs pos := by
  obtain ⟨result, c, called, h, placed'⟩ := h.split placed
  have fresh := callNatural_fresh called placed'
  have boxing := h.assembled
  unfold boxed at boxing
  refine .intro fun fits _ => concludes_callNatural sound grammar called placed' place
    ⟨fun value stop book comes within typed product denotes => ?_, goesOn.failed, goesOn.faulted⟩
  have rest := goesOn.matched value stop book comes within typed
  cases fresh with
  | void void _ objSlots =>
    obtain ⟨dst, d, made, boxing, placed₁⟩ := assemble_split boxing placed
    obtain ⟨_, e, loaded, boxing, placed₂⟩ := assemble_split boxing placed
    cases boxing
    obtain ⟨fresh', size⟩ := objSlot_fresh made placed₁
    rw [void] at denotes
    obtain ⟨rfl, rfl⟩ := denotes.of_void
    rw [← size]
    refine concludes_loadNull loaded placed fresh'.inside (rest _ ?_ ?_)
    · exact .setObj (Nat.le_of_eq (fresh'.index.trans objSlots).symm) _
    · exact Registers.obj_setObj fits fresh'.inside _
  | @int raw _ scalar fresh =>
    obtain ⟨dst, d, made, boxing, placed₁⟩ := assemble_split boxing placed
    obtain ⟨_, e, emitted, boxing, placed₂⟩ := assemble_split boxing placed
    cases boxing
    obtain ⟨fresh', size⟩ := objSlot_fresh made placed₁
    obtain ⟨n, v, rfl, rfl⟩ := denotes.of_scalar scalar
    have fits' : (regs.setInt raw n).Fits s.program := fits.setInt raw n
    have held : (regs.setInt raw n).int raw = n := Registers.int_setInt fits fresh.inside n
    have unboxed : (scalarKind (cx.grammar.outputOf child)).box? ((regs.setInt raw n).int raw) =
        some v := by
      rw [held]
      exact denotes.box?_eq
    rw [← size]
    refine concludes_box emitted placed₂ fresh'.inside fresh.inside unboxed (rest _ ?_ ?_)
    · refine .trans (.setInt ?_ n) (.setObj ?_ v)
      · exact Nat.le_of_eq fresh.index.symm
      · exact Nat.le_of_eq (fresh'.index.trans fresh.objSlots).symm
    · exact Registers.obj_setObj fits' fresh'.inside v
  | obj boxed fresh =>
    cases boxing
    obtain ⟨v, rfl, rfl⟩ := denotes.of_boxed boxed
    exact rest _ (.setObj (Nat.le_of_eq fresh.index.symm) v)
      (Registers.obj_setObj fits fresh.inside v)

/-! ### Results of the caller -/

/-- A value of a scalar type is settled as it is. -/
theorem settle_of_scalar {ty : OutputType} (scalar : ty.isScalar = true) (v : Value) :
    Meaning.settle ty (some v) = some v := by
  cases ty with
  | char => rfl
  | int => rfl
  | _ => cases scalar

/-- A value of any other type is settled as it is, and no value as `null`. -/
theorem settle_of_boxed {ty : OutputType} (boxed : Boxed ty) (value : Option Value) :
    Meaning.settle ty value = some (value.getD .null) := by
  rw [Meaning.settle, boxed.1]
  rfl

/-- The type without values is the only one of its kind. -/
theorem eq_void {ty : OutputType} (void : ty.isVoid = true) : ty = .void := by
  cases ty with
  | void => rfl
  | _ => cases void

/-- A scalar is called into the result register itself. -/
theorem concludes_callInto_int (sound : s.Sound) (grammar : s.grammar = cx.grammar) {raw : IntSlot}
    (h : Emits (callInto cx child (some (.int raw)) onFail) a u b)
    (placed : Placed s.program b) (place : s.program.labels[onFail.index]? = some (some pc))
    (inside : raw.index < s.program.intSlots) (scalar : cx.output.isScalar = true)
    (agree : (cx.grammar.outputOf child).isScalar = true →
      cx.grammar.outputOf child = cx.output)
    (goesOn : Continues s Q child pos pc regs fun value stop Q =>
      ∀ regs', (∀ slot : IntSlot, slot.index < a.intSlots →
          (some (.int raw) : Option Slot) ≠ some (.int slot) → regs'.int slot = regs.int slot) →
        Denotes cx.output (regs'.product (some (.int raw))) (Meaning.settle cx.output value) →
        s.Concludes Q b.code.size regs' stop) :
    s.Concludes Q a.code.size regs pos := by
  refine .intro fun fits _ => ?_
  unfold callInto at h
  dsimp only at h
  split at h
  case isFalse => exact h.not_thrown.elim
  case isTrue childScalar =>
    obtain ⟨_, c, requested, h, _⟩ := h.split placed
    obtain rfl := requested.requested
    refine concludes_callResult sound grammar (.int childScalar inside) h.assembled placed place
      ⟨fun value stop book comes within typed product denotes => ?_, goesOn.failed, goesOn.faulted⟩
    rw [agree childScalar] at denotes
    obtain ⟨n, v, rfl, rfl⟩ := denotes.of_scalar scalar
    refine goesOn.matched _ stop book comes within typed _ (fun slot _ differs => ?_) ?_
    · refine Registers.int_setInt_of_ne ?_ n
      rintro equal
      refine differs (congrArg (fun i => some (Slot.int i)) ?_)
      cases slot
      cases raw
      cases equal
      rfl
    · have held := Registers.int_setInt fits inside n
      rw [settle_of_scalar scalar, Registers.product]
      change Denotes cx.output (.int ((regs.setInt raw n).int raw)) (some v)
      rw [held]
      exact denotes

/-- Whatever a child produces is boxed for an object register. -/
theorem concludes_callInto_obj (sound : s.Sound) (grammar : s.grammar = cx.grammar) {obj : ObjSlot}
    (h : Emits (callInto cx child (some (.obj obj)) onFail) a u b)
    (placed : Placed s.program b) (place : s.program.labels[onFail.index]? = some (some pc))
    (inside : obj.index < s.program.objSlots)
    (goesOn : Continues s Q child pos pc regs fun value stop Q =>
      ∀ regs', (∀ slot : IntSlot, slot.index < a.intSlots → regs'.int slot = regs.int slot) →
        regs'.obj obj = value.getD .null → s.Concludes Q b.code.size regs' stop) :
    s.Concludes Q a.code.size regs pos := by
  refine .intro fun fits _ => ?_
  unfold callInto at h
  dsimp only at h
  split at h
  case isTrue void =>
    -- A child without a value leaves `null` in the register.
    obtain ⟨_, c, called, loaded, placed'⟩ := h.split placed
    refine concludes_callVoid sound called placed' place
      ⟨fun value stop book comes within typed => ?_, goesOn.failed, goesOn.faulted⟩
    have rest := goesOn.matched value stop book comes within typed
    obtain ⟨product, denotes⟩ := typed
    rw [grammar, eq_void void] at denotes
    obtain ⟨_, rfl⟩ := denotes.of_void
    exact concludes_loadNull loaded.assembled placed inside
      (rest (regs.setObj obj .null) (fun _ _ => rfl) (Registers.obj_setObj fits inside .null))
  case isFalse notVoid =>
    split at h
    case isTrue scalar =>
      -- A scalar comes in an integer register of its own and is boxed from there.
      obtain ⟨_, c, requested, h, _⟩ := h.split placed
      obtain rfl := requested.requested
      obtain ⟨raw, c, made, h, placed₁⟩ := h.step placed
      obtain ⟨_, d, called, emitted, placed₂⟩ := h.step placed
      obtain ⟨fresh, size⟩ := intSlot_fresh made placed₁
      rw [← size]
      refine concludes_callResult sound grammar (.int scalar fresh.inside) called placed₂ place
        ⟨fun value stop book comes within typed product denotes => ?_, goesOn.failed,
          goesOn.faulted⟩
      obtain ⟨n, v, rfl, rfl⟩ := denotes.of_scalar scalar
      have held : (regs.setInt raw n).int raw = n := Registers.int_setInt fits fresh.inside n
      have unboxed : (scalarKind (cx.grammar.outputOf child)).box? ((regs.setInt raw n).int raw) =
          some v := by
        rw [held]
        exact denotes.box?_eq
      refine concludes_box emitted.assembled placed inside fresh.inside unboxed
        (goesOn.matched _ stop book comes within typed _ (fun slot used => ?_)
          (Registers.obj_setObj (fits.setInt raw n) inside v))
      refine Registers.int_setInt_of_ne ?_ n
      rw [fresh.index]
      exact Nat.ne_of_lt used
    case isFalse notScalar =>
      obtain ⟨_, c, requested, h, _⟩ := h.split placed
      obtain rfl := requested.requested
      have boxed : Boxed (cx.grammar.outputOf child) :=
        ⟨Bool.not_eq_true _ ▸ notVoid, Bool.not_eq_true _ ▸ notScalar⟩
      refine concludes_callResult sound grammar (.obj boxed inside) h.assembled placed place
        ⟨fun value stop book comes within typed product denotes => ?_, goesOn.failed,
          goesOn.faulted⟩
      obtain ⟨v, rfl, rfl⟩ := denotes.of_boxed boxed
      exact goesOn.matched _ stop book comes within typed (regs.setObj obj v) (fun _ _ => rfl)
        (Registers.obj_setObj fits inside v)

/-- The value of a child is in the register that it is called into. Where that is an integer
register, the types must agree. -/
theorem concludes_callInto (sound : s.Sound) (grammar : s.grammar = cx.grammar)
    {dst : Option Slot} (h : Emits (callInto cx child dst onFail) a u b)
    (placed : Placed s.program b) (place : s.program.labels[onFail.index]? = some (some pc))
    (result : ResultSlot s.program cx.output dst)
    (agree : cx.output.isScalar = true → (cx.grammar.outputOf child).isScalar = true →
      cx.grammar.outputOf child = cx.output)
    (goesOn : Continues s Q child pos pc regs fun value stop Q =>
      ∀ regs', (∀ slot : IntSlot, slot.index < a.intSlots → dst ≠ some (.int slot) →
          regs'.int slot = regs.int slot) →
        Denotes cx.output (regs'.product dst) (Meaning.settle cx.output value) →
        s.Concludes Q b.code.size regs' stop) :
    s.Concludes Q a.code.size regs pos := by
  cases result with
  | void void =>
    refine concludes_callVoid sound h placed place
      ⟨fun value stop book comes within typed => ?_, goesOn.failed, goesOn.faulted⟩
    refine goesOn.matched value stop book comes within typed regs (fun _ _ _ => rfl) ?_
    rw [void]
    exact .void
  | int scalar inside =>
    exact concludes_callInto_int sound grammar h placed place inside scalar (agree scalar) goesOn
  | @obj obj boxed inside =>
    refine concludes_callInto_obj sound grammar h placed place inside
      ⟨fun value stop book comes within typed regs' same held => ?_, goesOn.failed, goesOn.faulted⟩
    refine goesOn.matched value stop book comes within typed regs'
      (fun slot used _ => same slot used) ?_
    rw [settle_of_boxed boxed, Registers.product]
    rw [held]
    exact .boxed boxed _

end Packrat.Lowering
