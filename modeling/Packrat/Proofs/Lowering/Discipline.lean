import Mathlib.Data.List.Nodup
import Packrat.Proofs.Grammar.Absorption
import Packrat.Proofs.Lowering.Finished

/-!
# The discipline of lowered programs

What the actions of the assembler keep to while a rule is lowered, whatever becomes of the run of
the program. Labels are placed once each, and before the code ends; registers that hold positions
are written by nothing but the instruction that keeps the position, and only they are gone back to.
A table that grows too large is remembered as a fault, and then nothing else matters.

* `Instruction.Orderly`: the registers that an instruction writes and goes back to.
* `Assembler.Neat`: a stage with some labels to be placed and some registers of either use.
* `Assembler.Tidy`: a stage that is neat or refused because of its size.
* `Assembles`, `Lowers`: what an action makes of the stages with a property.
* `Program.Orderly`: what is left of the discipline in a finished program.

Main statements: `body_sealed`, `lowerRule_orderly`, and `lowerRule_explained`.
-/

namespace Packrat

open Assemble

/-! ## Instructions -/

/-- The integer register among the registers that a result may go to. -/
def Slot.scalars : Option Slot → List IntSlot
  | some (.int r) => [r]
  | _ => []

/-- The rule reads the text with more than single characters. -/
def Rule.scans : Rule → Bool
  | .regex _ | .number _ | .literal _ true => true
  | _ => false

/-- The instruction goes back to kept registers only, and writes free ones only, unless it keeps the
position. It has operations on the text only if the program scans. -/
def Instruction.Orderly (scans : Bool) (kept : List IntSlot) (free : IntSlot → Prop) :
    Instruction → Prop
  | .loadImm dst _ | .addImm dst _ | .peekChar dst => free dst
  | .restorePos src | .slice _ src => src ∈ kept
  | .invoke native _ dst _ =>
    (scans = true ∨ native = .userObject) ∧ ∀ r ∈ Slot.scalars dst, free r
  | .call _ _ dst _ => ∀ r ∈ Slot.scalars dst, free r
  | _ => True

/-- An orderly instruction stays so when more registers hold positions and more are free. -/
theorem Instruction.Orderly.mono {scans : Bool} {kept kept' : List IntSlot}
    {free free' : IntSlot → Prop} {i : Instruction} (orderly : i.Orderly scans kept free)
    (more : ∀ r ∈ kept, r ∈ kept') (freer : ∀ r, free r → free' r) :
    i.Orderly scans kept' free' := by
  cases i with
  | loadImm dst _ => exact freer dst orderly
  | addImm dst _ => exact freer dst orderly
  | peekChar dst => exact freer dst orderly
  | restorePos src => exact more src orderly
  | slice _ src => exact more src orderly
  | invoke _ _ _ _ => exact ⟨orderly.1, fun r member => freer r (orderly.2 r member)⟩
  | call _ _ _ _ => exact fun r member => freer r (orderly r member)
  | _ => trivial

/-- Some registers of the program hold positions: it goes back to no others, and writes them only to
keep the position. -/
def Program.Orderly (scans : Bool) (p : Program) : Prop :=
  ∃ kept, ∀ i ∈ p.code, i.Orderly scans kept fun r => r ∉ kept

/-! ## Stages -/

namespace Assembler

/-- A table of the program is too large. -/
def Oversized (a : Assembler) : Prop :=
  ∃ program table, a.fault = some (.programTooLarge program table)

/-- The labels that are still to be placed are the given ones, and registers are used as the given
lists of them say. -/
structure Neat (scans : Bool) (pending : List Label) (kept scalars : List IntSlot)
    (a : Assembler) : Prop where
  sound : a.fault = none
  unplaced : ∀ l : Label, a.labels[l.index]? = some none ↔ l ∈ pending
  distinct : pending.Nodup
  places : ∀ l pc : Nat, a.labels[l]? = some (some pc) → pc ≤ a.code.size
  inside : ∀ r ∈ kept, r.index < a.intSlots
  free : ∀ r ∈ scalars, r.index < a.intSlots ∧ r ∉ kept
  orderly : ∀ i ∈ a.code, i.Orderly scans kept fun r => r.index < a.intSlots ∧ r ∉ kept

/-- The stage is neat unless a table is too large. -/
def Tidy (scans : Bool) (pending : List Label) (kept scalars : List IntSlot)
    (a : Assembler) : Prop :=
  a.Oversized ∨ a.Neat scans pending kept scalars

/-- Every label is placed before the end of the code, unless a table is too large. -/
def Sealed (scans : Bool) (a : Assembler) : Prop :=
  a.Oversized ∨ ∃ kept scalars, a.Neat scans [] kept scalars ∧
    ∀ l pc : Nat, a.labels[l]? = some (some pc) → pc < a.code.size

variable {scans : Bool} {pending : List Label} {kept scalars : List IntSlot} {a : Assembler}

/-- The first fault stays. -/
theorem Oversized.blame (oversized : a.Oversized) (fault : EngineFault) :
    (a.blame fault).Oversized := by
  obtain ⟨program, table, same⟩ := oversized
  exact ⟨program, table, by rw [Assembler.blame, same]; rfl⟩

/-- Numbering an entry of an oversized program leaves it oversized. -/
theorem Oversized.number (oversized : a.Oversized) (i : Nat) (table : String) :
    (a.number i table).2.Oversized := by
  unfold Assembler.number
  split
  · exact oversized
  · exact oversized.blame _

/-- An entry gets the number that is asked for unless the table is too large. -/
theorem number_cases (sound : a.fault = none) (i : Nat) (table : String) :
    a.number i table = (i, a) ∨ (a.number i table).2.Oversized := by
  unfold Assembler.number
  split
  · exact .inl rfl
  · exact .inr ⟨a.name, table, by rw [blame, sound]; rfl⟩

/-- A stage with other tables of constants and callees. -/
theorem Neat.tables (neat : a.Neat scans pending kept scalars) (objSlots : Nat)
    (consts : Array Constant) (callees : Array Callee)
    (calleeOf : Std.HashMap RuleId CalleeIndex) :
    Neat scans pending kept scalars { a with objSlots, consts, callees, calleeOf } where
  sound := neat.sound
  unplaced := neat.unplaced
  distinct := neat.distinct
  places := neat.places
  inside := neat.inside
  free := neat.free
  orderly := neat.orderly

/-- Registers for scalars may be forgotten. -/
theorem Tidy.forget {fewer : List IntSlot} (tidy : a.Tidy scans pending kept scalars)
    (subset : ∀ r ∈ fewer, r ∈ scalars) : a.Tidy scans pending kept fewer :=
  tidy.imp id fun neat => { neat with free := fun r member => neat.free r (subset r member) }

end Assembler

open Assembler

/-! ## What actions make of stages -/

/-- From stages with property `P` the action leads to those that `Q` relates to what it returns. -/
def Assembles {α : Type} (P : Assembler → Prop) (m : Assemble α) (Q : α → Assembler → Prop) :
    Prop :=
  ∀ a, P a → Q (m a).1 (m a).2

namespace Assembles

variable {α β : Type} {P P' : Assembler → Prop} {m : Assemble α} {Q Q' : α → Assembler → Prop}
  {f : α → Assemble β} {R : β → Assembler → Prop}

/-- Returning something leads nowhere else. -/
theorem pure {x : α} : Assembles P (Pure.pure x) (fun _ => P) := fun _ holds => holds

/-- Two actions lead where the second one leads from where the first one does. -/
theorem bind (first : Assembles P m Q) (rest : ∀ x, Assembles (Q x) (f x) R) :
    Assembles P (m >>= f) R :=
  fun a holds => rest _ _ (first a holds)

/-- What holds of all stages in question may be used. -/
theorem given {C : Prop} (rest : C → Assembles P m Q) : Assembles (fun a => C ∧ P a) m Q :=
  fun a holds => rest holds.1 a holds.2

/-- What an action leads to from more stages it leads to from fewer, and to more. -/
theorem mono (holds : Assembles P m Q) (stronger : ∀ a, P' a → P a)
    (weaker : ∀ x a, Q x a → Q' x a) : Assembles P' m Q' :=
  fun a given => weaker _ _ (holds a (stronger a given))

end Assembles

namespace Lowering

/-- From stages with property `P` the lowering action leads to those that `Q` relates to what it
returns, or it is refused with an error that `E` allows. -/
def Lowers {α : Type} (E : CompileError → Prop) (P : Assembler → Prop) (m : Lower α)
    (Q : α → Assembler → Prop) : Prop :=
  ∀ requests a, P a → match m.run.run requests a with
    | ((.ok x, _), b) => Q x b
    | ((.error e, _), _) => E e

namespace Lowers

variable {α β : Type} {E : CompileError → Prop} {P : Assembler → Prop} {m : Lower α}
  {Q : α → Assembler → Prop} {f : α → Lower β} {R : β → Assembler → Prop}

/-- Returning something leads nowhere else. -/
theorem pure {x : α} : Lowers E P (Pure.pure x) (fun _ => P) := fun _ _ holds => holds

/-- A refusal has an error that is allowed. -/
theorem throw {e : CompileError} (allowed : E e) : Lowers E P (throw e : Lower α) Q :=
  fun _ _ _ => allowed

/-- Two actions lead where the second one leads from where the first one does. -/
theorem bind (first : Lowers E P m Q) (rest : ∀ x, Lowers E (Q x) (f x) R) :
    Lowers E P (m >>= f) R := by
  intro requests a holds
  have made := first requests a holds
  rw [run_bind]
  generalize m.run.run requests a = ran at made
  obtain ⟨⟨_ | x, requests'⟩, b⟩ := ran
  · exact made
  · exact rest x requests' b made

/-- An action of the assembler, as a lowering action. -/
theorem lift {m : Assemble α} (holds : Assembles P m Q) : Lowers E P (liftM m) Q :=
  fun _ a given => holds a given

/-- An action of the assembler in front of a lowering action. -/
theorem step {m : Assemble α} (first : Assembles P m Q) (rest : ∀ x, Lowers E (Q x) (f x) R) :
    Lowers E P (liftM m >>= f) R :=
  (lift first).bind rest

/-- A request leaves the program as it is. -/
theorem request {child : RuleId} : Lowers E P (request child) (fun _ => P) :=
  fun _ _ holds => holds

/-- What holds of all stages in question may be used. -/
theorem given {C : Prop} (rest : C → Lowers E P m Q) : Lowers E (fun a => C ∧ P a) m Q :=
  fun requests a holds => rest holds.1 requests a holds.2

end Lowers

end Lowering

/-! ## Basic actions -/

section

variable {scans : Bool} {pending : List Label} {kept scalars : List IntSlot}

/-- A fresh integer register is none of those in use. -/
theorem intSlot_cases {a : Assembler} (neat : a.Neat scans pending kept scalars) :
    intSlot a = (⟨a.intSlots⟩, { a with intSlots := a.intSlots + 1 }) ∨
      (intSlot a).2.Oversized := by
  simp only [intSlot, modifyGet, MonadStateOf.modifyGet, StateT.modifyGet]
  rcases number_cases neat.sound a.intSlots "int slot" with same | oversized
  · left
    rw [same]
    rfl
  · exact .inr oversized

/-- Another integer register leaves an oversized program oversized. -/
theorem oversized_intSlot {a : Assembler} (oversized : a.Oversized) : (intSlot a).2.Oversized :=
  oversized.number a.intSlots "int slot"

/-- A fresh register for scalars. -/
theorem intSlot_tidy : Assembles (Tidy scans pending kept scalars) intSlot
    (fun r => Tidy scans pending kept (r :: scalars)) := by
  rintro a (oversized | neat)
  · exact .inl (oversized_intSlot oversized)
  · rcases intSlot_cases neat with made | oversized
    · rw [made]
      right
      refine { neat with inside := fun r member => ?_, free := fun r member => ?_, orderly := ?_ }
      · exact Nat.lt_succ_of_lt (neat.inside r member)
      · rcases List.mem_cons.mp member with rfl | member
        · exact ⟨Nat.lt_succ_self _, fun member => Nat.lt_irrefl _ (neat.inside _ member)⟩
        · exact ⟨Nat.lt_succ_of_lt (neat.free r member).1, (neat.free r member).2⟩
      · intro i member
        exact (neat.orderly i member).mono (fun _ => id) fun r free =>
          ⟨Nat.lt_succ_of_lt free.1, free.2⟩
    · exact .inl oversized

/-- A fresh register for positions. -/
theorem intSlot_kept : Assembles (Tidy scans pending kept scalars) intSlot
    (fun r => Tidy scans pending (r :: kept) scalars) := by
  rintro a (oversized | neat)
  · exact .inl (oversized_intSlot oversized)
  · rcases intSlot_cases neat with made | oversized
    · rw [made]
      right
      -- What is in use has another number.
      have fresh {r : IntSlot} (free : r.index < a.intSlots ∧ r ∉ kept) :
          r.index < a.intSlots + 1 ∧ r ∉ (⟨a.intSlots⟩ : IntSlot) :: kept := by
        refine ⟨Nat.lt_succ_of_lt free.1, fun member => ?_⟩
        rcases List.mem_cons.mp member with rfl | member
        · exact Nat.lt_irrefl _ free.1
        · exact free.2 member
      refine { neat with inside := fun r member => ?_, free := fun r member => ?_, orderly := ?_ }
      · rcases List.mem_cons.mp member with rfl | member
        · exact Nat.lt_succ_self _
        · exact Nat.lt_succ_of_lt (neat.inside r member)
      · exact fresh (neat.free r member)
      · intro i member
        exact (neat.orderly i member).mono (fun _ => List.mem_cons_of_mem _)
          fun r free => fresh free
    · exact .inl oversized

/-- Another object register leaves the stage tidy. -/
theorem objSlot_tidy : Assembles (Tidy scans pending kept scalars) objSlot
    (fun _ => Tidy scans pending kept scalars) := by
  rintro a (oversized | neat)
  · exact .inl (oversized.number a.objSlots "object slot")
  · simp only [objSlot, modifyGet, MonadStateOf.modifyGet, StateT.modifyGet]
    rcases number_cases neat.sound a.objSlots "object slot" with same | oversized
    · rw [same]
      exact .inr (neat.tables _ a.consts a.callees a.calleeOf)
    · exact .inl oversized

/-- A fresh label is one more to be placed. -/
theorem newLabel_tidy : Assembles (Tidy scans pending kept scalars) newLabel
    (fun l => Tidy scans (l :: pending) kept scalars) := by
  rintro a (oversized | neat)
  · exact .inl oversized
  · right
    have unknown : (⟨a.labels.size⟩ : Label) ∉ pending := by
      rw [← neat.unplaced, Array.getElem?_eq_none (Nat.le_refl _)]
      exact nofun
    refine { neat with unplaced := fun l => ?_, distinct := ?_, places := fun l pc there => ?_ }
    · change (a.labels.push none)[l.index]? = some none ↔ l ∈ (⟨a.labels.size⟩ : Label) :: pending
      rw [List.mem_cons, ← neat.unplaced, Array.getElem?_push]
      split
      case isTrue here => exact iff_of_true rfl (.inl (congrArg Label.mk here))
      case isFalse other =>
        refine ⟨.inr, Or.rec (fun same => ?_) id⟩
        exact absurd (congrArg Label.index same) other
    · exact List.nodup_cons.mpr ⟨unknown, neat.distinct⟩
    · change (a.labels.push none)[l]? = some (some pc) at there
      rw [Array.getElem?_push] at there
      split at there
      · cases there
      · exact neat.places l pc there

/-- A label that is to be placed gets its place. -/
theorem mark_tidy {l : Label} (before : List Label) {after : List Label} :
    Assembles (Tidy scans (before ++ l :: after) kept scalars) (mark l)
      (fun _ => Tidy scans (before ++ after) kept scalars) := by
  rintro a (oversized | neat)
  · left
    rw [mark_eq]
    dsimp only
    split
    · exact oversized
    · exact oversized.blame _
  · right
    have free : a.labels[l.index]? = some none :=
      (neat.unplaced l).mpr (List.mem_append_right _ List.mem_cons_self)
    have distinct := List.nodup_middle.mp neat.distinct
    rw [mark_eq, free]
    refine { neat with unplaced := fun l' => ?_, distinct := ?_, places := fun l' pc there => ?_ }
    · change (a.labels.setIfInBounds l.index (some a.code.size))[l'.index]? = some none ↔
        l' ∈ before ++ after
      rw [Array.getElem?_setIfInBounds]
      split
      case isTrue same =>
        have same : l = l' := congrArg Label.mk same
        refine iff_of_false (by split <;> simp) fun member => ?_
        exact (List.nodup_cons.mp distinct).1 (same ▸ member)
      case isFalse other =>
        rw [neat.unplaced, List.perm_middle.mem_iff, List.mem_cons]
        refine ⟨Or.rec (fun same => ?_) id, .inr⟩
        exact absurd (congrArg Label.index same.symm) other
    · exact (List.nodup_cons.mp distinct).2
    · change (a.labels.setIfInBounds l.index (some a.code.size))[l']? = some (some pc) at there
      rw [Array.getElem?_setIfInBounds] at there
      split at there
      · split at there
        · cases there
          exact Nat.le_refl _
        · cases there
      · exact neat.places l' pc there

/-- Instructions use registers as the lists say. -/
theorem Assembler.Neat.emit {a : Assembler} {i : Instruction}
    (neat : a.Neat scans pending kept scalars) (orderly : i.Orderly scans kept (· ∈ scalars)) :
    Neat scans pending kept scalars { a with code := a.code.push i } where
  sound := neat.sound
  unplaced := neat.unplaced
  distinct := neat.distinct
  places l pc there := by
    rw [Array.size_push]
    exact Nat.le_succ_of_le (neat.places l pc there)
  inside := neat.inside
  free := neat.free
  orderly j member := by
    rcases Array.mem_push.mp member with member | rfl
    · exact neat.orderly j member
    · exact orderly.mono (fun _ => id) neat.free

/-- An orderly instruction leaves the stage tidy. -/
theorem emit_tidy {i : Instruction} (orderly : i.Orderly scans kept (· ∈ scalars)) :
    Assembles (Tidy scans pending kept scalars) (emit i)
      (fun _ => Tidy scans pending kept scalars) :=
  fun _ tidy => tidy.imp id fun neat => neat.emit orderly

/-- Behind an instruction all places lie inside the code. -/
theorem emit_sealed {i : Instruction} (orderly : i.Orderly scans kept (· ∈ scalars)) :
    Assembles (Tidy scans [] kept scalars) (emit i) (fun _ => Sealed scans) := by
  rintro a (oversized | neat)
  · exact .inl oversized
  · refine .inr ⟨kept, scalars, neat.emit orderly, fun l pc there => ?_⟩
    change pc < (a.code.push i).size
    rw [Array.size_push]
    exact Nat.lt_succ_of_le (neat.places l pc there)

/-- A value among the constants leaves the stage tidy. -/
theorem valueConst_tidy {v : Value} : Assembles (Tidy scans pending kept scalars) (valueConst v)
    (fun _ => Tidy scans pending kept scalars) := by
  intro a tidy
  simp only [valueConst, modifyGet, MonadStateOf.modifyGet, StateT.modifyGet]
  split
  case h_1 i _ =>
    rcases tidy with oversized | neat
    · exact .inl (oversized.number i "constant")
    · rcases number_cases neat.sound i "constant" with same | oversized
      · rw [same]
        exact .inr neat
      · exact .inl oversized
  case h_2 =>
    rcases tidy with oversized | neat
    · exact .inl (oversized.number a.consts.size "constant")
    · rcases number_cases neat.sound a.consts.size "constant" with same | oversized
      · rw [same]
        exact .inr (neat.tables a.objSlots _ a.callees a.calleeOf)
      · exact .inl oversized

/-- A regular expression among the constants leaves the stage tidy. -/
theorem regexConst_tidy {r : Regex} : Assembles (Tidy scans pending kept scalars) (regexConst r)
    (fun _ => Tidy scans pending kept scalars) := by
  rintro a (oversized | neat)
  · exact .inl (oversized.number a.consts.size "constant")
  · simp only [regexConst, modifyGet, MonadStateOf.modifyGet, StateT.modifyGet]
    rcases number_cases neat.sound a.consts.size "constant" with same | oversized
    · rw [same]
      exact .inr (neat.tables a.objSlots _ a.callees a.calleeOf)
    · exact .inl oversized

/-- A callee leaves the stage tidy. -/
theorem callee_tidy {rule : RuleId} {handle : Option Handle} :
    Assembles (Tidy scans pending kept scalars) (callee rule handle)
      (fun _ => Tidy scans pending kept scalars) := by
  intro a tidy
  simp only [callee, modifyGet, MonadStateOf.modifyGet, StateT.modifyGet]
  split
  case h_1 => exact tidy
  case h_2 =>
    rcases tidy with oversized | neat
    · exact .inl (oversized.number a.callees.size "callee")
    · rcases number_cases neat.sound a.callees.size "callee" with same | oversized
      · rw [same]
        exact .inr (neat.tables a.objSlots a.consts _ _)
      · exact .inl oversized

/-! ## Actions made of basic ones -/

/-- The position is kept in a register for positions. -/
theorem savePos_tidy : Assembles (Tidy scans pending kept scalars) savePos
    (fun r => Tidy scans pending (r :: kept) scalars) :=
  .bind intSlot_kept fun _ => .bind (emit_tidy trivial) fun _ => .pure

/-- Loading a value leaves the stage tidy. -/
theorem loadValue_tidy {dst : ObjSlot} {v : Value} :
    Assembles (Tidy scans pending kept scalars) (loadValue dst v)
      (fun _ => Tidy scans pending kept scalars) :=
  .bind valueConst_tidy fun _ => emit_tidy trivial

/-- A fresh register for values of a type is one for scalars at most. -/
theorem slotFor_tidy {ty : OutputType} : Assembles (Tidy scans pending kept scalars) (slotFor ty)
    (fun dst => Tidy scans pending kept (Slot.scalars dst ++ scalars)) := by
  unfold slotFor
  split
  · exact fun _ => id
  · split
    · exact .bind intSlot_tidy fun r => fun _ => id
    · exact .bind objSlot_tidy fun r => fun _ => id

namespace Lowering

variable {E : CompileError → Prop} {cx : Context} {child : RuleId} {name : Option String}
  {dst : Option Slot} {onFail fail : Label}

/-- A call leaves the stage tidy if the register for its product is free. -/
theorem callRule_tidy (free : ∀ r ∈ Slot.scalars dst, r ∈ scalars) :
    Assembles (Tidy scans pending kept scalars) (callRule child name dst onFail)
      (fun _ => Tidy scans pending kept scalars) :=
  .bind callee_tidy fun _ => emit_tidy free

/-- A call without a result leaves the stage tidy. -/
theorem callVoid_tidy : Lowers E (Tidy scans pending kept scalars) (callVoid child name onFail)
    (fun _ => Tidy scans pending kept scalars) :=
  .bind .request fun _ => .lift (callRule_tidy nofun)

/-- The register of a call is not written again, so it is forgotten. -/
theorem callNatural_tidy :
    Lowers E (Tidy scans pending kept scalars) (callNatural cx child name onFail)
      (fun _ => Tidy scans pending kept scalars) := by
  refine .bind .request fun _ => .step slotFor_tidy fun dst => ?_
  refine .step (callRule_tidy fun r member => List.mem_append_left _ member) fun _ => ?_
  exact fun _ _ tidy => tidy.forget fun r member => List.mem_append_right _ member

/-- Boxing a result leaves the stage tidy. -/
theorem boxed_tidy {ty : OutputType} {result : Option Slot} :
    Assembles (Tidy scans pending kept scalars) (boxed ty result)
      (fun _ => Tidy scans pending kept scalars) := by
  unfold boxed
  rcases result with _ | raw | obj
  · exact .bind objSlot_tidy fun _ => .bind loadValue_tidy fun _ => .pure
  · exact .bind objSlot_tidy fun _ => .bind (emit_tidy trivial) fun _ => .pure
  · exact .pure

/-- A call with a value leaves the stage tidy. -/
theorem callObject_tidy :
    Lowers E (Tidy scans pending kept scalars) (callObject cx child name onFail)
      (fun _ => Tidy scans pending kept scalars) :=
  .bind callNatural_tidy fun _ => .lift boxed_tidy

/-- A call into an integer register is refused unless the callee produces a scalar. -/
theorem callInto_tidy (free : ∀ r ∈ Slot.scalars dst, r ∈ scalars)
    (refused : (∃ r, dst = some (.int r)) → (cx.grammar.outputOf child).isScalar = false →
      E (.fault (.scalarExpected cx.name (cx.grammar.outputOf child).display))) :
    Lowers E (Tidy scans pending kept scalars) (callInto cx child dst onFail)
      (fun _ => Tidy scans pending kept scalars) := by
  unfold callInto
  rcases dst with _ | raw | obj
  · exact callVoid_tidy
  · dsimp only
    split
    case isTrue => exact .bind .request fun _ => .lift (callRule_tidy free)
    case isFalse other =>
      exact .throw (refused ⟨raw, rfl⟩ (Bool.eq_false_iff.mpr other))
  · dsimp only
    split
    · exact .bind callVoid_tidy fun _ => .lift loadValue_tidy
    · split
      · refine .bind .request fun _ => .step intSlot_tidy fun raw => ?_
        refine .step (callRule_tidy fun r member => ?_) fun _ => .lift ?_
        · rw [List.mem_singleton.mp member]
          exact List.mem_cons_self
        · exact .mono (emit_tidy trivial) (fun _ => id) fun _ _ tidy =>
            tidy.forget fun r => List.mem_cons_of_mem raw
      · exact .bind .request fun _ => .lift (callRule_tidy free)

/-- The position is gone back to if it was kept. -/
theorem goBack_tidy {start : Option IntSlot} (there : ∀ r ∈ start, r ∈ kept) :
    Assembles (Tidy scans pending kept scalars) (goBack start)
      (fun _ => Tidy scans pending kept scalars) := by
  cases start with
  | none => exact .pure
  | some r => exact emit_tidy (there r rfl)

/-- The code for failures places its label and leaves the stage tidy. -/
theorem failTail_tidy (before : List Label) {after : List Label} {start : Option IntSlot}
    (there : ∀ r ∈ start, r ∈ kept) :
    Assembles (Tidy scans (before ++ fail :: after) kept scalars) (failTail fail start)
      (fun _ => Tidy scans (before ++ after) kept scalars) :=
  .bind (mark_tidy before) fun _ => .bind (goBack_tidy there) fun _ => emit_tidy trivial

/-- Where no other label is pending, the code for failures seals the program. -/
theorem failTail_sealed {start : Option IntSlot} (there : ∀ r ∈ start, r ∈ kept) :
    Assembles (Tidy scans [fail] kept scalars) (failTail fail start) (fun _ => Sealed scans) :=
  .bind (mark_tidy []) fun _ => .bind (goBack_tidy there) fun _ => emit_sealed trivial

/-- The register for the result of the rule is one for scalars only if the rule produces them. -/
theorem resultSlot_tidy : Assembles (Tidy scans pending kept scalars) (resultSlot cx)
    (fun dst a => (∀ r, dst = some (.int r) → cx.output.isScalar = true) ∧
      Tidy scans pending kept (Slot.scalars dst ++ scalars) a) := by
  refine fun a tidy => ⟨fun r same => ?_, slotFor_tidy a tidy⟩
  unfold resultSlot slotFor at same
  split at same
  · cases same
  · split at same
    case isTrue scalar => exact scalar
    case isFalse => cases same

/-! ## Leaves -/

/-- The code for the characters of a literal leaves the stage tidy. -/
theorem literalChars_tidy {c : IntSlot} {chars : List Char} (free : c ∈ scalars) :
    Assembles (Tidy scans pending kept scalars) (literalChars c fail chars)
      (fun _ => Tidy scans pending kept scalars) := by
  induction chars with
  | nil => exact .pure
  | cons d rest ih =>
    exact .bind (emit_tidy free) fun _ => .bind (emit_tidy trivial) fun _ =>
      .bind (emit_tidy trivial) fun _ => ih

/-- The code of a literal is sealed. -/
theorem exactLiteral_sealed {text : String} :
    Assembles (Tidy scans [] [] []) (exactLiteral text) (fun _ => Sealed scans) := by
  refine .bind savePos_tidy fun start => .bind newLabel_tidy fun fail => ?_
  refine .bind intSlot_tidy fun c => .bind (literalChars_tidy List.mem_cons_self) fun _ => ?_
  refine .bind objSlot_tidy fun out => .bind loadValue_tidy fun _ => ?_
  refine .bind (emit_tidy trivial) fun _ => .bind (failTail_sealed ?_) fun _ => .pure
  rintro r ⟨⟩
  exact List.mem_cons_self

/-- The code of a literal in any case is sealed; it scans. -/
theorem foldedLiteral_sealed {text : String} :
    Assembles (Tidy true [] [] []) (foldedLiteral text) (fun _ => Sealed true) := by
  have scanned {native : Native} {out : ObjSlot} {scalars : List IntSlot} :
      (true = true ∨ native = .userObject) ∧
        ∀ r ∈ Slot.scalars (some (.obj out)), r ∈ scalars := ⟨.inl rfl, nofun⟩
  refine .bind savePos_tidy fun start => .bind newLabel_tidy fun fail => ?_
  refine .bind newLabel_tidy fun ok => .bind intSlot_tidy fun count => ?_
  refine .bind (emit_tidy List.mem_cons_self) fun _ => .bind objSlot_tidy fun got => ?_
  refine .bind (emit_tidy scanned) fun _ => .bind objSlot_tidy fun folded => ?_
  refine .bind (emit_tidy scanned) fun _ => .bind objSlot_tidy fun want => ?_
  refine .bind loadValue_tidy fun _ => .bind (emit_tidy trivial) fun _ => ?_
  refine .bind (failTail_tidy [ok] ?_) fun _ => .bind (mark_tidy []) fun _ => ?_
  · rintro r ⟨⟩
    exact List.mem_cons_self
  · exact .bind (emit_sealed trivial) fun _ => .pure

/-- Tests for ranges leave the stage tidy. -/
theorem testRanges_tidy {c : IntSlot} {hit : Label} {ranges : List (Char × Char)} :
    Assembles (Tidy scans pending kept scalars) (testRanges c hit ranges)
      (fun _ => Tidy scans pending kept scalars) := by
  induction ranges with
  | nil => exact .pure
  | cons range rest ih =>
    exact .bind newLabel_tidy fun next => .bind (emit_tidy trivial) fun _ =>
      .bind (emit_tidy trivial) fun _ => .bind (mark_tidy []) fun _ => ih

/-- Tests for characters leave the stage tidy. -/
theorem testChars_tidy {c : IntSlot} {hit : Label} {chars : List Char} :
    Assembles (Tidy scans pending kept scalars) (testChars c hit chars)
      (fun _ => Tidy scans pending kept scalars) := by
  induction chars with
  | nil => exact .pure
  | cons d rest ih => exact .bind (emit_tidy trivial) fun _ => ih

/-- Consuming a member places the label for it and leaves the stage tidy. -/
theorem takeMember_tidy {negated : Bool} {hit : Label} :
    Assembles (Tidy scans (hit :: pending) kept scalars) (takeMember negated fail hit)
      (fun _ => Tidy scans pending kept scalars) := by
  unfold takeMember
  split
  · exact .bind (emit_tidy trivial) fun _ => .bind (emit_tidy trivial) fun _ => mark_tidy []
  · exact .bind (emit_tidy trivial) fun _ => .bind (mark_tidy []) fun _ =>
      .bind (emit_tidy trivial) fun _ => emit_tidy trivial

/-- The code of a class of characters is sealed if its tests leave every stage tidy. -/
theorem charClass_sealed {negated : Bool} {tests : IntSlot → Label → Assemble Unit}
    (tidy : ∀ c hit pending kept scalars, Assembles (Tidy scans pending kept scalars) (tests c hit)
      (fun _ => Tidy scans pending kept scalars)) :
    Assembles (Tidy scans [] [] []) (charClass negated tests) (fun _ => Sealed scans) := by
  refine .bind newLabel_tidy fun fail => .bind newLabel_tidy fun hit => ?_
  refine .bind intSlot_tidy fun c => .bind (emit_tidy List.mem_cons_self) fun _ => ?_
  refine .bind (emit_tidy trivial) fun _ => .bind (tidy c hit _ _ _) fun _ => ?_
  exact .bind takeMember_tidy fun _ => .bind (failTail_sealed nofun) fun _ => .pure

/-- An operation on the text of a program that scans, or one that reads no text. -/
theorem native_sealed {op : Native} (allowed : scans = true ∨ op = .userObject) :
    Assembles (Tidy scans [] [] []) (native cx op) (fun _ => Sealed scans) := by
  refine .bind newLabel_tidy fun fail => .bind resultSlot_tidy fun out => .given fun _ => ?_
  refine .bind (emit_tidy ⟨allowed, fun r member => List.mem_append_left _ member⟩) fun _ => ?_
  exact .bind (emit_tidy trivial) fun _ => .bind (failTail_sealed nofun) fun _ => .pure

/-- The code of a literal is sealed, and it scans if case is ignored. -/
theorem literal_sealed (malformed : ∀ error, E (.grammar error)) {text : String}
    {ignoreCase : Bool} :
    Lowers E (Tidy (Rule.literal text ignoreCase).scans [] [] []) (literal cx text ignoreCase)
      (fun _ => Sealed (Rule.literal text ignoreCase).scans) := by
  unfold literal
  split
  · exact .throw (malformed _)
  · cases ignoreCase with
    | true => exact .lift foldedLiteral_sealed
    | false => exact .lift exactLiteral_sealed

/-- The code of ranges of characters is sealed. -/
theorem charRange_sealed (malformed : ∀ error, E (.grammar error)) {ranges : List (Char × Char)}
    {negated : Bool} :
    Lowers E (Tidy scans [] [] []) (charRange cx ranges negated) (fun _ => Sealed scans) := by
  unfold charRange
  split
  · exact .throw (malformed _)
  · split
    · exact .throw (malformed _)
    · exact .lift (charClass_sealed fun _ _ _ _ _ => testRanges_tidy)

/-- The code of a set of characters is sealed. -/
theorem charSet_sealed (malformed : ∀ error, E (.grammar error)) {chars : List Char}
    {negated : Bool} :
    Lowers E (Tidy scans [] [] []) (charSet cx chars negated) (fun _ => Sealed scans) := by
  unfold charSet
  split
  · exact .throw (malformed _)
  · exact .lift (charClass_sealed fun _ _ _ _ _ => testChars_tidy)

/-- The code of a regular expression is sealed; it scans. -/
theorem regex_sealed [RegexEngine] (malformed : ∀ error, E (.grammar error)) {pattern : String} :
    Lowers E (Tidy true [] [] []) (regex cx pattern) (fun _ => Sealed true) := by
  unfold regex
  split
  · exact .throw (malformed _)
  · exact .step regexConst_tidy fun _ => .lift (native_sealed (.inl rfl))

/-- The code for white space is sealed. -/
theorem whitespace_sealed :
    Assembles (Tidy scans [] [] []) whitespace (fun _ => Sealed scans) := by
  refine .bind newLabel_tidy fun top => .bind newLabel_tidy fun skip => ?_
  refine .bind intSlot_tidy fun c => .bind (mark_tidy [skip]) fun _ => ?_
  refine .bind (emit_tidy List.mem_cons_self) fun _ => .bind testChars_tidy fun _ => ?_
  refine .bind (emit_tidy trivial) fun _ => .bind (mark_tidy []) fun _ => ?_
  exact .bind (emit_tidy trivial) fun _ => .bind (emit_sealed trivial) fun _ => .pure

/-- The code for a line end is sealed. -/
theorem eol_sealed : Assembles (Tidy scans [] [] []) eol (fun _ => Sealed scans) := by
  refine .bind newLabel_tidy fun ok => .bind newLabel_tidy fun lf => ?_
  refine .bind newLabel_tidy fun cr => .bind intSlot_tidy fun c => ?_
  refine .bind (emit_tidy List.mem_cons_self) fun _ => .bind (emit_tidy trivial) fun _ => ?_
  refine .bind (emit_tidy trivial) fun _ => .bind (emit_tidy trivial) fun _ => ?_
  refine .bind (emit_tidy trivial) fun _ => .bind (mark_tidy [cr]) fun _ => ?_
  refine .bind (emit_tidy trivial) fun _ => .bind (emit_tidy trivial) fun _ => ?_
  refine .bind (mark_tidy []) fun _ => .bind (emit_tidy trivial) fun _ => ?_
  refine .bind (emit_tidy List.mem_cons_self) fun _ => .bind (emit_tidy trivial) fun _ => ?_
  refine .bind (emit_tidy trivial) fun _ => .bind (mark_tidy []) fun _ => ?_
  exact .bind (emit_sealed trivial) fun _ => .pure

/-- The code for the end of the text is sealed. -/
theorem eoi_sealed : Assembles (Tidy scans [] [] []) eoi (fun _ => Sealed scans) := by
  refine .bind newLabel_tidy fun fail => .bind intSlot_tidy fun c => ?_
  refine .bind (emit_tidy List.mem_cons_self) fun _ => .bind (emit_tidy trivial) fun _ => ?_
  exact .bind (emit_tidy trivial) fun _ => .bind (failTail_sealed nofun) fun _ => .pure

/-- The code for the position is sealed. -/
theorem location_sealed : Assembles (Tidy scans [] [] []) location (fun _ => Sealed scans) :=
  .bind savePos_tidy fun _ => .bind (emit_sealed trivial) fun _ => .pure

/-! ## Composite rules -/

/-- A separator leaves the stage tidy. -/
theorem separate_tidy {separator : Option RuleId} {first : Bool} :
    Lowers E (Tidy scans pending kept scalars) (separate separator fail first)
      (fun _ => Tidy scans pending kept scalars) := by
  unfold separate
  split
  · exact callVoid_tidy
  · exact .pure

/-- A part of a sequence leaves the stage tidy. -/
theorem sequencePart_tidy {obj : Option ObjSlot} {part : Part} :
    Lowers E (Tidy scans pending kept scalars) (sequencePart cx obj fail part)
      (fun _ => Tidy scans pending kept scalars) := by
  unfold sequencePart
  split
  · exact .bind callObject_tidy fun _ => .lift (emit_tidy trivial)
  · exact callVoid_tidy

/-- So do all parts of it. -/
theorem sequenceParts_tidy {separator : Option RuleId} {obj : Option ObjSlot} {first : Bool}
    {parts : List Part} :
    Lowers E (Tidy scans pending kept scalars) (sequenceParts cx separator obj fail first parts)
      (fun _ => Tidy scans pending kept scalars) := by
  induction parts generalizing first with
  | nil => exact .pure
  | cons part rest ih =>
    exact .bind separate_tidy fun _ => .bind sequencePart_tidy fun _ => ih

/-- An empty object leaves the stage tidy. -/
theorem emptyObject_tidy {ty : Option String} :
    Assembles (Tidy scans pending kept scalars) (emptyObject ty)
      (fun _ => Tidy scans pending kept scalars) := by
  unfold emptyObject
  cases ty with
  | none => exact .pure
  | some ty => exact .bind objSlot_tidy fun _ => .bind (emit_tidy trivial) fun _ => .pure

/-- The code of a sequence is sealed. -/
theorem sequence_sealed (malformed : ∀ error, E (.grammar error)) {ty : Option String}
    {parts : List Part} {separator : Option RuleId} :
    Lowers E (Tidy scans [] [] []) (sequence cx ty parts separator) (fun _ => Sealed scans) := by
  unfold sequence
  split
  · exact .throw (malformed _)
  · refine .step savePos_tidy fun start => .step newLabel_tidy fun fail => ?_
    refine .step emptyObject_tidy fun obj => .bind sequenceParts_tidy fun _ => ?_
    refine .step (emit_tidy trivial) fun _ => .step (failTail_sealed ?_) fun _ => .pure
    rintro r ⟨⟩
    exact List.mem_cons_self

/-- Candidates leave the stage tidy, and only one without the scalar that is expected is refused. -/
theorem tryCandidates_tidy {result : Option Slot} {done : Label} {candidates : List RuleId}
    (free : ∀ r ∈ Slot.scalars result, r ∈ scalars)
    (refused : ∀ candidate ∈ candidates, (∃ r, result = some (.int r)) →
      (cx.grammar.outputOf candidate).isScalar = false →
      E (.fault (.scalarExpected cx.name (cx.grammar.outputOf candidate).display))) :
    Lowers E (Tidy scans pending kept scalars) (tryCandidates cx result done candidates)
      (fun _ => Tidy scans pending kept scalars) := by
  induction candidates with
  | nil => exact .pure
  | cons candidate rest ih =>
    refine .step newLabel_tidy fun next => ?_
    refine .bind (callInto_tidy free (refused candidate List.mem_cons_self)) fun _ => ?_
    refine .step (emit_tidy trivial) fun _ => .step (mark_tidy []) fun _ => ?_
    exact ih fun other member => refused other (List.mem_cons_of_mem _ member)

/-- The code of an alternative is sealed, and only a candidate without the scalar that is expected
is refused with a fault. -/
theorem alternative_sealed (malformed : ∀ error, E (.grammar error)) {base : Option String}
    {candidates : List RuleId} (refused : ∀ candidate ∈ candidates, cx.output.isScalar = true →
      (cx.grammar.outputOf candidate).isScalar = false →
      E (.fault (.scalarExpected cx.name (cx.grammar.outputOf candidate).display))) :
    Lowers E (Tidy scans [] [] []) (alternative cx base candidates) (fun _ => Sealed scans) := by
  unfold alternative
  split
  · exact .throw (malformed _)
  · refine .step resultSlot_tidy fun result => ?_
    refine .given fun typed => .step newLabel_tidy fun done => ?_
    refine .bind (tryCandidates_tidy ?_ ?_) fun _ => ?_
    · exact fun r member => List.mem_append_left _ member
    · exact fun candidate member ⟨r, same⟩ => refused candidate member (typed r same)
    · refine .step (emit_tidy trivial) fun _ => .step (mark_tidy []) fun _ => ?_
      exact .step (emit_sealed trivial) fun _ => .pure

/-- The register for what is gathered leaves the stage tidy. -/
theorem accumulator_tidy {element : RuleId} {collect : Collect} :
    Assembles (Tidy scans pending kept scalars) (accumulator cx element collect)
      (fun _ => Tidy scans pending kept scalars) := by
  unfold accumulator
  cases collect with
  | text => exact .bind objSlot_tidy fun _ => .bind (emit_tidy trivial) fun _ => .pure
  | list =>
    dsimp only
    split
    · exact .pure
    · exact .bind objSlot_tidy fun _ => .bind (emit_tidy trivial) fun _ => .pure

/-- Appending to a text leaves the stage tidy. -/
theorem appendText_tidy {text : ObjSlot} {item : Option Slot} :
    Assembles (Tidy scans pending kept scalars) (appendText text item)
      (fun _ => Tidy scans pending kept scalars) := by
  unfold appendText
  rcases item with _ | raw | obj
  · exact .pure
  · exact emit_tidy trivial
  · exact emit_tidy trivial

/-- Gathering an element leaves the stage tidy. -/
theorem gatherElement_tidy {element : RuleId} {collect : Collect} {acc : Option ObjSlot}
    {rollback : Label} :
    Lowers E (Tidy scans pending kept scalars) (gatherElement cx element collect acc rollback)
      (fun _ => Tidy scans pending kept scalars) := by
  unfold gatherElement
  split
  · exact .bind callNatural_tidy fun _ => .lift appendText_tidy
  · exact .bind callObject_tidy fun _ => .lift (emit_tidy trivial)
  · exact callVoid_tidy

/-- The test for the greatest number of elements leaves the stage tidy. -/
theorem testGreatest_tidy {count : IntSlot} {max : Option Nat} {done : Label} :
    Assembles (Tidy scans pending kept scalars) (testGreatest count max done)
      (fun _ => Tidy scans pending kept scalars) := by
  unfold testGreatest
  cases max with
  | none => exact .pure
  | some bound => exact emit_tidy trivial

/-- The separator between elements leaves the stage tidy. -/
theorem separateElement_tidy {count : IntSlot} {separator : Option RuleId} {first done : Label} :
    Lowers E (Tidy scans pending kept scalars) (separateElement count separator first done)
      (fun _ => Tidy scans pending kept scalars) := by
  unfold separateElement
  cases separator with
  | none => exact .pure
  | some separator => exact .step (emit_tidy trivial) fun _ => callVoid_tidy

/-- The test for the least number of elements leaves the stage tidy. -/
theorem testLeast_tidy {count : IntSlot} {min : Nat} :
    Assembles (Tidy scans pending kept scalars) (testLeast count min fail)
      (fun _ => Tidy scans pending kept scalars) := by
  unfold testLeast
  split
  · exact emit_tidy trivial
  · exact .pure

/-- The code of a repetition is sealed. -/
theorem repetition_sealed (malformed : ∀ error, E (.grammar error)) {element : RuleId}
    {separator : Option RuleId} {min : Nat} {max : Option Nat} {collect : Collect} :
    Lowers E (Tidy scans [] [] []) (repetition cx element separator min max collect)
      (fun _ => Sealed scans) := by
  unfold repetition
  split
  · exact .throw (malformed _)
  · refine .step savePos_tidy fun start => .step newLabel_tidy fun fail => ?_
    refine .step newLabel_tidy fun top => .step newLabel_tidy fun first => ?_
    refine .step newLabel_tidy fun rollback => .step newLabel_tidy fun done => ?_
    refine .step newLabel_tidy fun accept => .step intSlot_tidy fun count => ?_
    refine .step (emit_tidy List.mem_cons_self) fun _ => .step accumulator_tidy fun acc => ?_
    refine .step (mark_tidy [accept, done, rollback, first]) fun _ => ?_
    refine .step testGreatest_tidy fun _ => .step savePos_tidy fun iter => ?_
    refine .bind separateElement_tidy fun _ => ?_
    refine .step (mark_tidy [accept, done, rollback]) fun _ => ?_
    refine .bind gatherElement_tidy fun _ => .step (emit_tidy List.mem_cons_self) fun _ => ?_
    refine .step savePos_tidy fun after => .step (emit_tidy trivial) fun _ => ?_
    refine .step (emit_tidy trivial) fun _ => .step (mark_tidy [accept, done]) fun _ => ?_
    refine .step (emit_tidy (List.mem_cons_of_mem _ List.mem_cons_self)) fun _ => ?_
    refine .step (mark_tidy [accept]) fun _ => .step testLeast_tidy fun _ => ?_
    refine .step (mark_tidy []) fun _ => .step (emit_tidy trivial) fun _ => ?_
    refine .step (failTail_sealed ?_) fun _ => .pure
    rintro r ⟨⟩
    exact List.mem_cons_of_mem _ (List.mem_cons_of_mem _ List.mem_cons_self)

/-- The value of an absent child leaves the stage tidy. -/
theorem loadAbsent_tidy {output : OutputType} {result : Option Slot} :
    Assembles (Tidy scans pending kept scalars) (loadAbsent output result)
      (fun _ => Tidy scans pending kept scalars) := by
  unfold loadAbsent
  split
  · exact loadValue_tidy
  · exact emit_tidy trivial
  · exact loadValue_tidy
  · exact .pure

/-- The result of an optional rule is no scalar, so its child is never refused. -/
theorem optional_sealed (boxed : cx.output.isScalar = false) :
    Lowers E (Tidy scans [] [] []) (optional cx child) (fun _ => Sealed scans) := by
  refine .step resultSlot_tidy fun result => .given fun typed => ?_
  refine .step newLabel_tidy fun absent => .step newLabel_tidy fun done => ?_
  refine .bind (callInto_tidy (fun r member => List.mem_append_left _ member) ?_) fun _ => ?_
  · rintro ⟨r, same⟩
    rw [typed r same] at boxed
    cases boxed
  · refine .step (emit_tidy trivial) fun _ => .step (mark_tidy [done]) fun _ => ?_
    refine .step loadAbsent_tidy fun _ => .step (mark_tidy []) fun _ => ?_
    exact .step (emit_sealed trivial) fun _ => .pure

/-- The code of a rule that looks ahead is sealed. -/
theorem lookAhead_sealed :
    Lowers E (Tidy scans [] [] []) (lookAhead child) (fun _ => Sealed scans) := by
  refine .step savePos_tidy fun start => .step newLabel_tidy fun fail => ?_
  refine .bind callVoid_tidy fun _ => .step (emit_tidy List.mem_cons_self) fun _ => ?_
  exact .step (emit_tidy trivial) fun _ => .step (failTail_sealed nofun) fun _ => .pure

/-- The code of a rule that looks ahead for the absence of a child is sealed. -/
theorem notAhead_sealed :
    Lowers E (Tidy scans [] [] []) (notAhead child) (fun _ => Sealed scans) := by
  refine .step savePos_tidy fun start => .step newLabel_tidy fun ok => ?_
  refine .bind callVoid_tidy fun _ => .step (emit_tidy List.mem_cons_self) fun _ => ?_
  refine .step (emit_tidy trivial) fun _ => .step (mark_tidy []) fun _ => ?_
  exact .step (emit_sealed trivial) fun _ => .pure

/-- Where the result of the whole is a scalar, that of the inner rule must be. -/
theorem surround_sealed {opening inner : RuleId} {closing : Option RuleId}
    (scalar : cx.output.isScalar = true → (cx.grammar.outputOf inner).isScalar = true) :
    Lowers E (Tidy scans [] [] []) (surround cx opening inner closing)
      (fun _ => Sealed scans) := by
  refine .step savePos_tidy fun start => .step newLabel_tidy fun fail => ?_
  refine .step resultSlot_tidy fun result => .given fun typed => .bind callVoid_tidy fun _ => ?_
  refine .bind (callInto_tidy (fun r member => List.mem_append_left _ member) ?_) fun _ => ?_
  · rintro ⟨r, same⟩ boxed
    rw [scalar (typed r same)] at boxed
    cases boxed
  · refine .bind callVoid_tidy fun _ => .step (emit_tidy trivial) fun _ => ?_
    refine .step (failTail_sealed ?_) fun _ => .pure
    rintro r ⟨⟩
    exact List.mem_cons_self

/-- The code of a rule for the text that a child consumes is sealed. -/
theorem capture_sealed :
    Lowers E (Tidy scans [] [] []) (capture child) (fun _ => Sealed scans) := by
  refine .step savePos_tidy fun start => .step newLabel_tidy fun fail => ?_
  refine .bind callVoid_tidy fun _ => .step objSlot_tidy fun out => ?_
  refine .step (emit_tidy List.mem_cons_self) fun _ => .step (emit_tidy trivial) fun _ => ?_
  exact .step (failTail_sealed nofun) fun _ => .pure

end Lowering

end

/-! ## Rules -/

/-- Why a rule of a grammar has no program although its children are answered for. -/
inductive CompileError.Explained (g : Grammar) (id : RuleId) : CompileError → Prop where
  /-- The rule is malformed. -/
  | malformed (error : GrammarError) : Explained g id (.grammar error)
  /-- A table of its program is too large. -/
  | oversized (program table : String) : Explained g id (.fault (.programTooLarge program table))
  /-- It is an alternative that produces a scalar, but the type of a candidate is undetermined. -/
  | undetermined {d : RuleDef} {candidates : List RuleId} {candidate : RuleId}
      (found : g.get? id = some d) (rule : d.rule = .alternative none candidates)
      (member : candidate ∈ candidates) (scalar : (g.outputOf id).isScalar = true)
      (any : g.outputOf candidate = .any) :
      Explained g id (.fault (.scalarExpected (g.displayName id) OutputType.any.display))

namespace Lowering

variable {g : Grammar} {model : ObjectModel} {id : RuleId} {d : RuleDef} {p : Program}

/-- A candidate of an alternative for scalars produces a scalar too unless its type is
undetermined. -/
theorem explained_candidate (inferred : g.Inferred) (found : g.get? id = some d)
    {base : Option String} {candidates : List RuleId} (rule : d.rule = .alternative base candidates)
    {candidate : RuleId} (member : candidate ∈ candidates)
    (scalar : (g.outputOf id).isScalar = true)
    (other : (g.outputOf candidate).isScalar = false) : CompileError.Explained g id
      (.fault (.scalarExpected (g.displayName id) (g.outputOf candidate).display)) := by
  cases base with
  | some base =>
    have object := inferred.fixedType found (.object base) fun types => by rw [rule]; rfl
    rw [object] at scalar
    cases scalar
  | none =>
    by_cases any : g.outputOf candidate = .any
    · rw [any]
      exact .undetermined found rule member scalar any
    · have absorbs := inferred.absorbs_known found rule member (inferred.estimate_of_ne any)
      rcases OutputType.absorbs_iff.mp absorbs with same | same | ⟨same, _⟩
      · rw [← same, scalar] at other
        cases other
      · rw [same] at scalar
        cases scalar
      · rw [same] at scalar
        cases scalar

/-- The body of a rule places all its labels, or there is an explanation. -/
theorem body_sealed [RegexEngine] (inferred : g.Inferred) (found : g.get? id = some d) :
    Lowers (CompileError.Explained g id) (Tidy d.rule.scans [] [] [])
      (body ⟨g, model, g.displayName id, g.outputOf id⟩ d.rule)
      (fun _ => Sealed d.rule.scans) := by
  cases rule : d.rule with
  | literal text ignoreCase => exact literal_sealed .malformed
  | charRange ranges negated => exact charRange_sealed .malformed
  | charSet chars negated => exact charSet_sealed .malformed
  | regex pattern => exact regex_sealed .malformed
  | number kind => exact .lift (native_sealed (.inl rfl))
  | whitespace => exact .lift whitespace_sealed
  | eol => exact .lift eol_sealed
  | eoi => exact .lift eoi_sealed
  | userObject => exact .lift (native_sealed (.inr rfl))
  | location => exact .lift location_sealed
  | sequence ty parts separator => exact sequence_sealed .malformed
  | alternative base candidates =>
    exact alternative_sealed .malformed fun candidate member =>
      explained_candidate inferred found rule member
  | repetition element separator min max collect => exact repetition_sealed .malformed
  | optional child => exact optional_sealed (inferred.optional_not_scalar found rule)
  | lookAhead child => exact lookAhead_sealed
  | not child => exact notAhead_sealed
  | surround opening inner closing =>
    refine surround_sealed fun scalar => ?_
    rcases OutputType.absorbs_iff.mp (inferred.absorbs_inner found rule) with
      same | same | ⟨same, _⟩
    · exact same ▸ scalar
    · rw [same] at scalar
      cases scalar
    · rw [same] at scalar
      cases scalar
  | capture child => exact capture_sealed

/-! ## Finished programs -/

/-- Labels that are placed inside the code are in order. -/
theorem checkLabels_ok {a : Assembler} {used : Array Bool} {i : Nat} {labels : List (Option Nat)}
    (placed : ∀ label ∈ labels, ∃ pc, label = some pc ∧ pc < a.code.size) :
    a.checkLabels used i labels = .ok () := by
  induction labels generalizing i with
  | nil => rfl
  | cons label rest ih =>
    obtain ⟨pc, rfl, inside⟩ := placed _ List.mem_cons_self
    rw [checkLabels, if_pos inside]
    exact ih fun label member => placed label (List.mem_cons_of_mem _ member)

/-- A program with all labels placed is finished unless a table is too large. -/
theorem finish_sealed {scans : Bool} {a : Assembler} (closed : a.Sealed scans)
    (output : OutputType) (result : Option Slot) (concrete traced : Bool) :
    (∃ program table, a.finish output result concrete traced =
      .error (.programTooLarge program table)) ∨
    ∃ p, a.finish output result concrete traced = .ok p ∧ p.Orderly scans := by
  unfold finish
  rcases closed with ⟨program, table, fault⟩ | ⟨kept, scalars, neat, inside⟩
  · left
    rw [fault]
    exact ⟨program, table, rfl⟩
  · have checked : a.checkLabels a.usedLabels 0 a.labels.toList = .ok () := by
      refine checkLabels_ok fun label member => ?_
      obtain ⟨l, there⟩ := List.getElem?_of_mem member
      rw [Array.getElem?_toList] at there
      cases label with
      | none => cases (neat.unplaced ⟨l⟩).mp there
      | some pc => exact ⟨pc, rfl, inside l pc there⟩
    rw [neat.sound]
    dsimp only
    split
    · exact .inl ⟨_, _, rfl⟩
    · split
      · exact .inl ⟨_, _, rfl⟩
      · right
        rw [checked]
        refine ⟨_, rfl, kept, fun i member => ?_⟩
        exact (neat.orderly i member).mono (fun _ => id) fun r free => free.2

/-- What comes of a rule: its program is orderly, and an error has an explanation. -/
theorem lowerRule_cases [RegexEngine] (inferred : g.Inferred) (model : ObjectModel)
    (found : g.get? id = some d) :
    (∃ e, (lowerRule g model id).result = .error e ∧ CompileError.Explained g id e) ∨
      ∃ p, (lowerRule g model id).result = .ok p ∧ p.Orderly d.rule.scans := by
  have fresh : Tidy d.rule.scans [] [] [] (.start id (g.displayName id)) :=
    .inr ⟨rfl, by simp [start], .nil, by simp [start], nofun, nofun, by simp [start]⟩
  have lowers : Lowers (CompileError.Explained g id) (Tidy d.rule.scans [] [] [])
      (body ⟨g, model, g.displayName id, g.outputOf id⟩ d.rule) (fun _ => Sealed d.rule.scans) :=
    body_sealed inferred found
  have made := lowers #[] _ fresh
  rw [lowerRule_of_found found]
  generalize (body ⟨g, model, g.displayName id, g.outputOf id⟩ d.rule).run.run #[]
    (.start id (g.displayName id)) = ran at made
  obtain ⟨⟨e | slot, requests⟩, a⟩ := ran
  · exact .inl ⟨e, rfl, made⟩
  · dsimp only at made ⊢
    rcases finish_sealed made (g.outputOf id) slot d.rule.isConcrete (!d.ignored) with
      ⟨program, table, refused⟩ | ⟨p, finished, orderly⟩
    · rw [refused]
      exact .inl ⟨_, rfl, .oversized program table⟩
    · rw [finished]
      exact .inr ⟨p, rfl, orderly⟩

/-- The program of a rule is orderly. -/
theorem lowerRule_orderly [RegexEngine] (inferred : g.Inferred) (found : g.get? id = some d)
    (lowered : (lowerRule g model id).result = .ok p) : p.Orderly d.rule.scans := by
  rcases lowerRule_cases inferred model found with ⟨e, failed, _⟩ | ⟨p', lowered', orderly⟩
  · rw [lowered] at failed
    cases failed
  · cases lowered.symm.trans lowered'
    exact orderly

/-- A rule without a program has an explanation for it. -/
theorem lowerRule_explained [RegexEngine] (inferred : g.Inferred) {e : CompileError}
    (failed : (lowerRule g model id).result = .error e) : CompileError.Explained g id e := by
  cases found : g.get? id with
  | none =>
    unfold lowerRule at failed
    rw [found] at failed
    cases failed
    exact .malformed _
  | some d =>
    rcases lowerRule_cases inferred model found with ⟨e', failed', explained⟩ | ⟨p, lowered, _⟩
    · cases failed.symm.trans failed'
      exact explained
    · rw [failed] at lowered
      cases lowered

end Lowering

end Packrat
