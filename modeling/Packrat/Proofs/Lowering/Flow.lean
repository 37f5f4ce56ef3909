import Packrat.Proofs.Lowering.Call
import Packrat.Proofs.Program.Flow

/-!
# The flow of lowered code

What has to be known at a stage of a program for the code from there on to be in order. The rules
are read backwards, as those for what a run concludes: what has to be known at the stage before an
action follows from what has to be known at the stage after it. Going back to an earlier place is
counted, so that a loop follows from its round.

* `Needs`: what has to be known.
* `Flows`: the code from a place on is in order if what it needs is known there.
* `Target`: so is the code from a label on.
* `flows_savePos`, `flows_jump`, …: the actions that append an instruction.
* `flows_loop`: a label that the code from there on goes back to.
* `flows_callVoid`, `flows_callObject`, …: the ways to call a child.
-/

namespace Packrat

open Assemble Machine

/-! ## What has to be known -/

/-- What has to be known at a place of a program. -/
structure Needs where
  /-- The position has to be the one where the run began. -/
  home : Bool
  /-- A register that has to hold the position where the run began. -/
  start : Option IntSlot
  /-- A register that has to gather something. -/
  gathers : Option (ObjSlot × Gathering)

namespace Needs

/-- Nothing has to be known. -/
def nothing : Needs := ⟨false, none, none⟩

/-- The run has to be back where it began. -/
def atHome : Needs := ⟨true, none, none⟩

/-- A register has to hold the position where the run began. -/
def wayBack (start : IntSlot) : Needs := ⟨false, some start, none⟩

/-- What is left of the needs where the position does not count. -/
def away (N : Needs) : Needs := { N with home := false }

/-- What is needed is known. -/
structure Met (N : Needs) (k : Known) : Prop where
  home : N.home = true → k.home = true
  start : ∀ r ∈ N.start, k.start r = true
  gathers : ∀ x ∈ N.gathers, k.gathers x.1 = some x.2

/-- The register that has to gather something is none of the given ones. -/
def Spares (N : Needs) (dst : Option Slot) : Prop :=
  ∀ x ∈ N.gathers, dst ≠ some (.obj x.1)

/-- The register that has to gather something was in use before. -/
def InUse (N : Needs) (a : Assembler) : Prop :=
  ∀ x ∈ N.gathers, x.1.index < a.objSlots

variable {N : Needs} {k : Known} {dst : ObjSlot}

/-- Where nothing is gathered, any register may be used. -/
theorem spares_of_none (none : N.gathers = none) (dst : Option Slot) : N.Spares dst := by
  intro x member
  rw [none] at member
  cases member

/-- Where nothing is gathered, no register need be in use for it. -/
theorem inUse_of_none (none : N.gathers = none) (a : Assembler) : N.InUse a := by
  intro x member
  rw [none] at member
  cases member

/-- What is left of needs that are met is met. -/
theorem Met.away (met : N.Met k) : N.away.Met k := { met with home := nofun }

/-- Wherever the position goes, what is left of the needs stays met. -/
theorem Met.moved (met : N.Met k) : N.away.Met k.moved :=
  ⟨nofun, met.start, met.gathers⟩

/-- A register that does not have to gather anything is set. -/
theorem Met.set (met : N.Met k) (spares : N.Spares (some (.obj dst)))
    (gathered : Option Gathering) : N.Met (k.set dst gathered) := by
  refine { met with gathers := fun x member => ?_ }
  have other : x.1 ≠ dst := fun same => spares x member (by rw [same])
  simpa [Known.set, other] using met.gathers x member

/-- Needs stay met if a register is written that they spare. -/
theorem Met.stored (met : N.Met k) {dst : Option Slot} (spares : N.Spares dst) :
    N.Met (k.stored dst) := by
  rcases dst with _ | _ | dst
  · exact met
  · exact met
  · exact met.set spares none

/-- Another register keeps the position. -/
theorem Met.kept (met : N.Met k) {dst : IntSlot} (other : ∀ r ∈ N.start, r ≠ dst) :
    N.Met (k.kept dst) := by
  refine { met with start := fun r member => ?_ }
  simpa [Known.kept, other r member] using met.start r member

/-- The position where the run began is kept. -/
theorem Met.kept_home (met : N.Met k) (home : N.home = true) (dst : IntSlot) :
    Met { N with start := some dst } (k.kept dst) := by
  refine { met with start := ?_ }
  rintro r ⟨⟩
  simpa [Known.kept] using met.home home

end Needs

/-! ## Code in order -/

namespace Program

/-- All instructions from a place on name what is there, and control does not run past the last. -/
def Laid (p : Program) (pc : Nat) : Prop :=
  ∀ pc' i, pc ≤ pc' → p.code[pc']? = some i →
    i.Fits p ∧ (i.falls = true → pc' + 1 < p.code.size)

/-- There is an instruction, and paths of up to `n` instructions from there on are in order if what
is needed is known. -/
structure Ready (p : Program) (n pc : Nat) (N : Needs) : Prop where
  inside : pc < p.code.size
  safe : ∀ k, N.Met k → p.Safe n pc k

/-- The code from a place on is in order if what is needed is known there. -/
structure Flows (p : Program) (n pc : Nat) (N : Needs) : Prop extends p.Ready n pc N where
  laid : p.Laid pc

/-- The code at a label is in order if what is needed is known. -/
def Target (p : Program) (n : Nat) (label : Label) (N : Needs) : Prop :=
  ∃ pc, p.labels[label.index]? = some (some pc) ∧ p.Ready n pc N

variable {p : Program} {n pc : Nat} {N M : Needs} {label : Label}

/-- Code that is ready for some needs is ready for greater ones. -/
theorem Ready.mono (ready : p.Ready n pc N) (less : ∀ k, M.Met k → N.Met k) :
    p.Ready n pc M :=
  ⟨ready.inside, fun k met => ready.safe k (less k met)⟩

/-- Code that is in order for some needs is in order for greater ones. -/
theorem Flows.mono (flows : p.Flows n pc N) (less : ∀ k, M.Met k → N.Met k) :
    p.Flows n pc M :=
  ⟨flows.toReady.mono less, flows.laid⟩

/-- Code that is in order for longer paths is in order for shorter ones. -/
theorem Flows.weaken (flows : p.Flows (n + 1) pc N) : p.Flows n pc N :=
  ⟨⟨flows.inside, fun k met => (flows.safe k met).weaken⟩, flows.laid⟩

/-- The code at a label that is in order for some needs is in order for greater ones. -/
theorem Target.mono (target : p.Target n label N) (less : ∀ k, M.Met k → N.Met k) :
    p.Target n label M := by
  obtain ⟨pc, place, ready⟩ := target
  exact ⟨pc, place, ready.mono less⟩

/-- The place of a label. -/
theorem target_eq (place : p.labels[label.index]? = some (some pc)) : p.target label = .ok pc := by
  rw [target, place]
  rfl

/-- A label that the code from there on goes back to. -/
theorem flows_loop (place : p.labels[label.index]? = some (some pc)) (inside : pc < p.code.size)
    (round : ∀ n, p.Target n label N → p.Flows (n + 1) pc N) (n : Nat) : p.Flows n pc N := by
  have ready (n : Nat) : p.Ready n pc N := by
    induction n with
    | zero => exact ⟨inside, fun _ _ => trivial⟩
    | succ n ih => exact (round n ⟨pc, place, ih⟩).toReady
  exact (round n ⟨pc, place, ready n⟩).weaken

end Program

open Program

/-! ## Actions of the assembler -/

section

variable {p : Program} {a b : Assembler} {n : Nat} {N M : Needs} {u : Unit} {i : Instruction}

/-- A stage without new code. -/
theorem flows_still (still : a.Still b) (rest : p.Flows n b.code.size N) :
    p.Flows n a.code.size N :=
  still.code ▸ rest

/-- A label that is placed where the code is in order. -/
theorem flows_mark {l : Label} (h : mark l a = (u, b)) (placed : Placed p b)
    (rest : p.Flows n b.code.size N) : p.Flows n a.code.size N ∧ p.Target n l N := by
  obtain ⟨place, still⟩ := mark_placed h placed
  have here := flows_still still rest
  exact ⟨here, _, place, here.toReady⟩

/-- An instruction is appended. -/
theorem flows_emit (h : emit i a = (u, b)) (placed : Placed p b) (laid : p.Laid b.code.size)
    (slots : ∀ slot ∈ i.slots, SlotInside p (some slot)) (tables : i.Resolves p)
    (gathers : ∀ k, N.Met k → i.Gathers k) (home : ∀ k, N.Met k → i.ReturnsHome k)
    (next : i.falls = true → p.Ready n b.code.size M ∧ ∀ k, N.Met k → M.Met (i.after k))
    (leap : ∀ label, i.target? = some label → p.Target n label N) :
    p.Flows (n + 1) a.code.size N := by
  obtain ⟨here, size, _⟩ := emit_found h placed
  refine ⟨⟨(Array.getElem?_eq_some_iff.mp here).1, ?_⟩, ?_⟩
  · intro k met j there
    cases here.symm.trans there
    refine ⟨gathers k met, home k met, fun falls => ?_, fun label pc' target place => ?_⟩
    · obtain ⟨ready, meets⟩ := next falls
      exact size ▸ ready.safe _ (meets k met)
    · obtain ⟨pc, place', ready⟩ := leap label target
      cases (target_eq place').symm.trans place
      exact ready.safe k met
  · intro pc' j le there
    rcases Nat.eq_or_lt_of_le le with rfl | further
    · cases here.symm.trans there
      refine ⟨⟨slots, fun label target => ?_, tables⟩, fun falls => ?_⟩
      · obtain ⟨pc, place, ready⟩ := leap label target
        exact ⟨pc, target_eq place, ready.inside⟩
      · exact size ▸ (next falls).1.inside
    · exact laid pc' j (size ▸ further) there

/-- An instruction that goes on with the next one. -/
theorem flows_next (h : emit i a = (u, b)) (placed : Placed p b)
    (target : i.target? = none) (slots : ∀ slot ∈ i.slots, SlotInside p (some slot))
    (tables : i.Resolves p) (gathers : ∀ k, N.Met k → i.Gathers k)
    (home : ∀ k, i.ReturnsHome k) (meets : ∀ k, N.Met k → M.Met (i.after k))
    (rest : p.Flows n b.code.size M) : p.Flows n a.code.size N := by
  refine (flows_emit h placed rest.laid slots tables gathers (fun k _ => home k)
    (fun _ => ⟨rest.toReady, meets⟩) fun label there => ?_).weaken
  rw [target] at there
  cases there

/-- An instruction that needs nothing to be known, and changes nothing of it. -/
structure Plain (i : Instruction) : Prop where
  tables : ∀ p, i.Resolves p
  gathers : ∀ k, i.Gathers k
  home : ∀ k, i.ReturnsHome k
  after : ∀ k, i.after k = k

/-- An instruction that changes nothing and goes on with the next one, or to a label. -/
theorem flows_plain (h : emit i a = (u, b)) (placed : Placed p b)
    (slots : ∀ slot ∈ i.slots, SlotInside p (some slot)) (plain : Plain i)
    (leap : ∀ label, i.target? = some label → p.Target n label N)
    (rest : p.Flows n b.code.size N) : p.Flows n a.code.size N := by
  refine (flows_emit h placed rest.laid slots (plain.tables p) (fun k _ => plain.gathers k)
    (fun k _ => plain.home k) (fun _ => ⟨rest.toReady, fun k met => ?_⟩) leap).weaken
  rw [plain.after]
  exact met

/-- A jump goes back one step earlier. -/
theorem flows_jump {label : Label} (h : jump label a = (u, b)) (placed : Placed p b)
    (laid : p.Laid b.code.size) (leap : p.Target n label N) :
    p.Flows (n + 1) a.code.size N := by
  refine flows_emit (M := N) h placed laid nofun trivial (fun _ _ => trivial)
    (fun _ _ => trivial) nofun ?_
  rintro _ ⟨⟩
  exact leap

/-- A jump on a comparison with a number is in order if the code on both sides is. -/
theorem flows_jumpIf {cond : Cond} {x : IntSlot} {m : Int} {label : Label}
    (h : jumpIf cond x m label a = (u, b)) (placed : Placed p b) (inside : x.index < p.intSlots)
    (leap : p.Target n label N) (rest : p.Flows n b.code.size N) :
    p.Flows n a.code.size N := by
  refine flows_plain h placed ?_ ⟨fun _ => trivial, fun _ => trivial, fun _ => trivial,
    fun _ => rfl⟩ ?_ rest
  · simpa [Instruction.slots, Operand.slots, SlotInside] using inside
  · rintro _ ⟨⟩
    exact leap

/-- A jump on a comparison of two integer registers is in order if the code on both sides is. -/
theorem flows_jumpIfSlot {cond : Cond} {x y : IntSlot} {label : Label}
    (h : jumpIfSlot cond x y label a = (u, b)) (placed : Placed p b)
    (inside : x.index < p.intSlots) (inside' : y.index < p.intSlots)
    (leap : p.Target n label N) (rest : p.Flows n b.code.size N) :
    p.Flows n a.code.size N := by
  refine flows_plain h placed ?_ ⟨fun _ => trivial, fun _ => trivial, fun _ => trivial,
    fun _ => rfl⟩ ?_ rest
  · simpa [Instruction.slots, Operand.slots, SlotInside] using ⟨inside, inside'⟩
  · rintro _ ⟨⟩
    exact leap

/-- A jump on equal objects is in order if the code on both sides is. -/
theorem flows_jumpIfObjEq {x y : ObjSlot} {label : Label}
    (h : emit (.jumpIfObjEq x y label) a = (u, b)) (placed : Placed p b)
    (inside : x.index < p.objSlots) (inside' : y.index < p.objSlots)
    (leap : p.Target n label N) (rest : p.Flows n b.code.size N) :
    p.Flows n a.code.size N := by
  refine flows_plain h placed ?_ ⟨fun _ => trivial, fun _ => trivial, fun _ => trivial,
    fun _ => rfl⟩ ?_ rest
  · simpa [Instruction.slots, SlotInside] using ⟨inside, inside'⟩
  · rintro _ ⟨⟩
    exact leap

/-- Loading a number is in order if the code behind it is. -/
theorem flows_loadImm {dst : IntSlot} {m : Int} (h : emit (.loadImm dst m) a = (u, b))
    (placed : Placed p b) (inside : dst.index < p.intSlots) (rest : p.Flows n b.code.size N) :
    p.Flows n a.code.size N := by
  refine flows_plain h placed ?_ ⟨fun _ => trivial, fun _ => trivial, fun _ => trivial,
    fun _ => rfl⟩ nofun rest
  simpa [Instruction.slots, SlotInside] using inside

/-- Adding a number is in order if the code behind it is. -/
theorem flows_addImm {dst : IntSlot} {m : Int} (h : emit (.addImm dst m) a = (u, b))
    (placed : Placed p b) (inside : dst.index < p.intSlots) (rest : p.Flows n b.code.size N) :
    p.Flows n a.code.size N := by
  refine flows_plain h placed ?_ ⟨fun _ => trivial, fun _ => trivial, fun _ => trivial,
    fun _ => rfl⟩ nofun rest
  simpa [Instruction.slots, SlotInside] using inside

/-- Looking at the next character is in order if the code behind it is. -/
theorem flows_peekChar {dst : IntSlot} (h : emit (.peekChar dst) a = (u, b))
    (placed : Placed p b) (inside : dst.index < p.intSlots) (rest : p.Flows n b.code.size N) :
    p.Flows n a.code.size N := by
  refine flows_plain h placed ?_ ⟨fun _ => trivial, fun _ => trivial, fun _ => trivial,
    fun _ => rfl⟩ nofun rest
  simpa [Instruction.slots, SlotInside] using inside

/-- A run that matches ends anywhere. -/
theorem flows_succeed (h : ret true a = (u, b)) (placed : Placed p b)
    (laid : p.Laid b.code.size) : p.Flows n a.code.size N :=
  (flows_emit (M := N) h placed laid nofun trivial (fun _ _ => trivial) (fun _ _ => trivial)
    nofun nofun).weaken

/-- A run that fails ends where it began. -/
theorem flows_fail (h : ret false a = (u, b)) (placed : Placed p b)
    (laid : p.Laid b.code.size) (home : N.home = true) : p.Flows n a.code.size N :=
  (flows_emit (M := N) h placed laid nofun trivial (fun _ _ => trivial)
    (fun _ met => met.home home) nofun nofun).weaken

/-- Consuming characters is in order if the code behind it needs no place. -/
theorem flows_advance {chars : Nat} (h : emit (.advance chars) a = (u, b)) (placed : Placed p b)
    (rest : p.Flows n b.code.size N.away) : p.Flows n a.code.size N :=
  flows_next h placed rfl nofun trivial (fun _ _ => trivial) (fun _ => trivial)
    (fun _ met => met.moved) rest

/-- An instruction that sets an object register to nothing that is being gathered. -/
theorem flows_setObj {dst : ObjSlot} (h : emit i a = (u, b)) (placed : Placed p b)
    (target : i.target? = none) (slots : ∀ slot ∈ i.slots, SlotInside p (some slot))
    (tables : i.Resolves p) (plain : ∀ k, i.Gathers k ∧ i.ReturnsHome k)
    (sets : ∀ k, i.after k = k.set dst none) (spares : N.Spares (some (.obj dst)))
    (rest : p.Flows n b.code.size N) : p.Flows n a.code.size N := by
  refine flows_next h placed target slots tables (fun k _ => (plain k).1) (fun k => (plain k).2)
    (fun k met => ?_) rest
  rw [sets]
  exact met.set spares none

/-- Loading a value is in order if the code behind it is, and the register is not gathered in. -/
theorem flows_loadValue {dst : ObjSlot} {v : Value} (h : loadValue dst v a = (u, b))
    (placed : Placed p b) (inside : dst.index < p.objSlots) (spares : N.Spares (some (.obj dst)))
    (rest : p.Flows n b.code.size N) : p.Flows n a.code.size N := by
  obtain ⟨index, c, numbered, emitted, placed'⟩ := assemble_split h placed
  obtain ⟨⟨w, found, _⟩, still⟩ := valueConst_found numbered placed'
  refine flows_still still (flows_setObj emitted placed rfl ?_ ⟨w, ?_⟩
    (fun _ => ⟨trivial, trivial⟩) (fun _ => rfl) spares rest)
  · simpa [Instruction.slots, SlotInside] using inside
  · rw [Program.valueConst, found]

/-- The position is kept in a fresh register; what is to be known behind that is what keeping it
there gives. -/
theorem flows_keepPos {dst : IntSlot} (h : savePos a = (dst, b)) (placed : Placed p b)
    (meets : ∀ k, N.Met k → M.Met (k.kept dst)) (rest : p.Flows n b.code.size M) :
    p.Flows n a.code.size N := by
  obtain ⟨slot, c, fresh, h, placed'⟩ := assemble_split h placed
  obtain ⟨_, d, emitted, h, _⟩ := assemble_split h placed
  cases h
  obtain ⟨⟨_, _, _, inside⟩, same⟩ := intSlot_fresh fresh placed'
  rw [← same]
  refine flows_next emitted placed rfl ?_ trivial (fun _ _ => trivial) (fun _ => trivial) meets rest
  simpa [Instruction.slots, SlotInside] using inside

/-- The position where the run began is kept in a fresh register. -/
theorem flows_savePos_home {dst : IntSlot} (h : savePos a = (dst, b)) (placed : Placed p b)
    (home : N.home = true) (rest : p.Flows n b.code.size { N with start := some dst }) :
    p.Flows n a.code.size N :=
  flows_keepPos h placed (fun _ met => met.kept_home home dst) rest

/-- The position is kept in a fresh register, which is another one than that of the start. -/
theorem flows_savePos {dst : IntSlot} (h : savePos a = (dst, b)) (placed : Placed p b)
    (other : ∀ r ∈ N.start, r ≠ dst) (rest : p.Flows n b.code.size N) :
    p.Flows n a.code.size N :=
  flows_keepPos h placed (fun _ met => met.kept other) rest

/-- The run goes back to where it began. -/
theorem flows_restorePos_home {src : IntSlot} (h : restorePos src a = (u, b))
    (placed : Placed p b) (inside : src.index < p.intSlots) (start : N.start = some src)
    (rest : p.Flows n b.code.size { N with home := true }) : p.Flows n a.code.size N := by
  refine flows_next (M := { N with home := true }) h placed rfl ?_ trivial (fun _ _ => trivial)
    (fun _ => trivial) (fun k met => ⟨fun _ => met.start src start, met.start, met.gathers⟩) rest
  simpa [Instruction.slots, SlotInside] using inside

/-- The run goes back to some place. -/
theorem flows_restorePos {src : IntSlot} (h : restorePos src a = (u, b)) (placed : Placed p b)
    (inside : src.index < p.intSlots) (rest : p.Flows n b.code.size N.away) :
    p.Flows n a.code.size N := by
  refine flows_next (M := N.away) h placed rfl ?_ trivial (fun _ _ => trivial)
    (fun _ => trivial) (fun k met => ⟨nofun, met.start, met.gathers⟩) rest
  simpa [Instruction.slots, SlotInside] using inside

/-- An operation on the text, which may move only if it succeeds. -/
theorem flows_invoke {native : Native} {args : List Slot} {dst : Option Slot} {label : Label}
    (h : invoke native args dst label a = (u, b)) (placed : Placed p b)
    (slots : ∀ slot ∈ args, SlotInside p (some slot)) (inside : SlotInside p dst)
    (tables : (Instruction.invoke native args dst label).Resolves p)
    (spares : N.Spares dst) (leap : p.Target n label N)
    (rest : p.Flows n b.code.size N.away) : p.Flows n a.code.size N := by
  refine (flows_emit h placed rest.laid (fun slot member => ?_) tables (fun _ _ => trivial)
    (fun _ _ => trivial) (fun _ => ⟨rest.toReady, fun k met => (met.stored spares).moved⟩)
    ?_).weaken
  · rcases List.mem_append.mp member with member | member
    · exact slots slot member
    · rwa [← Option.mem_toList.mp member]
  · rintro _ ⟨⟩
    exact leap

/-! ## Ends of runs -/

namespace Lowering

/-- The shared end of a run that fails where it began. -/
theorem flows_failHome {fail : Label} (h : failTail fail none a = (u, b)) (placed : Placed p b)
    (laid : p.Laid b.code.size) (home : N.home = true) :
    p.Flows n a.code.size N ∧ p.Target n fail N := by
  obtain ⟨_, c, marked, h, placed'⟩ := assemble_split h placed
  obtain ⟨_, d, back, returned, _⟩ := assemble_split h placed
  cases back
  exact flows_mark marked placed' (flows_fail returned placed laid home)

/-- The shared end of a run that fails goes back to where the run began. -/
theorem flows_failBack {fail : Label} {start : IntSlot} (h : failTail fail (some start) a = (u, b))
    (placed : Placed p b) (laid : p.Laid b.code.size) (inside : start.index < p.intSlots) :
    p.Flows n a.code.size (.wayBack start) ∧ p.Target n fail (.wayBack start) := by
  obtain ⟨_, c, marked, h, placed'⟩ := assemble_split h placed
  obtain ⟨_, d, back, returned, placed''⟩ := assemble_split h placed
  exact flows_mark marked placed' (flows_restorePos_home back placed'' inside rfl
    (flows_fail returned placed laid rfl))

/-! ## Calls -/

variable {cx : Context} {child : RuleId} {name : Option String} {onFail : Label}

/-- A call of a child, which may have moved only if it matches. -/
theorem flows_callRule {dst : Option Slot} (h : callRule child name dst onFail a = (u, b))
    (placed : Placed p b) (inside : SlotInside p dst) (spares : N.Spares dst)
    (leap : p.Target n onFail N) (rest : p.Flows n b.code.size N.away) :
    p.Flows n a.code.size N := by
  obtain ⟨index, c, numbered, emitted, placed'⟩ := assemble_split h placed
  obtain ⟨⟨handle, entry⟩, still⟩ := callee_found numbered placed'
  refine flows_still still (flows_emit emitted placed rest.laid (fun slot member => ?_)
    ⟨handle, ?_⟩ (fun _ _ => trivial) (fun _ _ => trivial)
    (fun _ => ⟨rest.toReady, fun k met => (met.stored spares).moved⟩) ?_).weaken
  · rwa [← Option.mem_toList.mp member]
  · rw [Program.callee, entry]
    rfl
  · rintro _ ⟨⟩
    exact leap

/-- A call without a result is in order if the code behind it and at the label for failures is. -/
theorem flows_callVoid (h : Emits (callVoid child name onFail) a u b) (placed : Placed p b)
    (leap : p.Target n onFail N) (rest : p.Flows n b.code.size N.away) :
    p.Flows n a.code.size N := by
  obtain ⟨_, c, requested, h, _⟩ := h.split placed
  obtain rfl := requested.requested
  exact flows_callRule h.assembled placed trivial (by rintro _ _ ⟨⟩) leap rest

/-- A fresh register was not in use before. -/
theorem spares_fresh (inUse : N.InUse a) {ty : OutputType} {dst : Option Slot}
    (fresh : FreshSlot p ty a dst b) : N.Spares dst := by
  rintro x member rfl
  cases fresh with
  | obj _ fresh => exact absurd (inUse x member) (Nat.not_lt.mpr (Nat.le_of_eq fresh.index.symm))

/-- So is a call with a result. -/
theorem flows_callNatural {dst : Option Slot} (h : Emits (callNatural cx child name onFail) a dst b)
    (placed : Placed p b) (inUse : N.InUse a) (leap : p.Target n onFail N)
    (rest : p.Flows n b.code.size N.away) : p.Flows n a.code.size N := by
  obtain ⟨_, c, requested, h, _⟩ := h.split placed
  obtain rfl := requested.requested
  obtain ⟨dst', d, made, h, placed'⟩ := h.step placed
  obtain ⟨_, e, called, h, _⟩ := h.step placed
  obtain ⟨rfl, rfl⟩ := h.returned
  obtain ⟨fresh, size⟩ := slotFor_fresh made placed'
  rw [← size]
  exact flows_callRule called placed fresh.result.inside (spares_fresh inUse fresh) leap rest

/-- A number is boxed. -/
theorem flows_box {dst : ObjSlot} {src : IntSlot} {kind : ScalarKind}
    (h : emit (.box dst src kind) a = (u, b)) (placed : Placed p b)
    (inside : dst.index < p.objSlots) (inside' : src.index < p.intSlots)
    (spares : N.Spares (some (.obj dst))) (rest : p.Flows n b.code.size N) :
    p.Flows n a.code.size N := by
  refine flows_setObj h placed rfl ?_ trivial (fun _ => ⟨trivial, trivial⟩) (fun _ => rfl) spares
    rest
  simpa [Instruction.slots, SlotInside] using ⟨inside, inside'⟩

/-- So is a call with a value. -/
theorem flows_callObject {obj : ObjSlot} (h : Emits (callObject cx child name onFail) a obj b)
    (placed : Placed p b) (inUse : N.InUse a) (leap : p.Target n onFail N)
    (rest : p.Flows n b.code.size N.away) : p.Flows n a.code.size N := by
  have spares : N.away.Spares (some (.obj obj)) := by
    rintro x member ⟨⟩
    exact absurd (inUse x member) (Nat.not_lt.mpr (callObject_fresh h placed).1)
  obtain ⟨result, c, called, h, placed'⟩ := h.split placed
  have boxing := h.assembled
  refine flows_callNatural called placed' inUse leap ?_
  unfold boxed at boxing
  cases callNatural_fresh called placed' with
  | void =>
    obtain ⟨dst, d, made, boxing, placed₁⟩ := assemble_split boxing placed
    obtain ⟨_, e, loaded, boxing, _⟩ := assemble_split boxing placed
    cases boxing
    obtain ⟨fresh, size⟩ := objSlot_fresh made placed₁
    rw [← size]
    exact flows_loadValue loaded placed fresh.inside spares rest
  | int _ fresh =>
    obtain ⟨dst, d, made, boxing, placed₁⟩ := assemble_split boxing placed
    obtain ⟨_, e, emitted, boxing, placed₂⟩ := assemble_split boxing placed
    cases boxing
    obtain ⟨fresh', size⟩ := objSlot_fresh made placed₁
    rw [← size]
    exact flows_box emitted placed₂ fresh'.inside fresh.inside spares rest
  | obj =>
    cases boxing
    exact rest

/-- Whatever a child is called into, it is none of the registers that gather. -/
theorem flows_callInto {dst : Option Slot} (h : Emits (callInto cx child dst onFail) a u b)
    (placed : Placed p b) (inside : SlotInside p dst) (none : N.gathers = none)
    (leap : p.Target n onFail N) (rest : p.Flows n b.code.size N.away) :
    p.Flows n a.code.size N := by
  have spares (dst : Option Slot) : N.Spares dst := by
    intro x member
    rw [none] at member
    cases member
  unfold callInto at h
  rcases dst with _ | raw | obj
  · exact flows_callVoid h placed leap rest
  · dsimp only at h
    split at h
    case isFalse => exact h.not_thrown.elim
    case isTrue =>
      obtain ⟨_, c, requested, h, _⟩ := h.split placed
      obtain rfl := requested.requested
      exact flows_callRule h.assembled placed inside (spares _) leap rest
  · dsimp only at h
    split at h
    case isTrue =>
      obtain ⟨_, c, called, loading, placed'⟩ := h.split placed
      exact flows_callVoid called placed' leap
        (flows_loadValue loading.assembled placed inside (spares _) rest)
    case isFalse =>
      split at h
      case isTrue =>
        obtain ⟨_, c, requested, h, _⟩ := h.split placed
        obtain rfl := requested.requested
        obtain ⟨raw, d, made, h, placed'⟩ := h.step placed
        obtain ⟨_, e, called, h, placed''⟩ := h.step placed
        obtain ⟨fresh, size⟩ := intSlot_fresh made placed'
        rw [← size]
        exact flows_callRule called placed'' fresh.inside (spares _) leap
          (flows_box h.assembled placed inside fresh.inside (spares _) rest)
      case isFalse =>
        obtain ⟨_, c, requested, h, _⟩ := h.split placed
        obtain rfl := requested.requested
        exact flows_callRule h.assembled placed inside (spares _) leap rest

end Lowering

end

end Packrat
