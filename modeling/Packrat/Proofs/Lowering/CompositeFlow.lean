import Packrat.Proofs.Lowering.LeafFlow
import Packrat.Proofs.Lowering.Finished

/-!
# The flow of the programs of rules

The code of a composite rule is in order, whatever its children do: children that match may leave
the run anywhere, so it is in order only because the rule keeps where it began and goes back there
before it fails. What is gathered stays in a register that no child's result is put into.

* `Needs.gathering`: what has to be known between the rounds of a repetition.

Main statements: `rule_inOrder` and `lowerRule_inOrder`.
-/

namespace Packrat

/-- What a way of gathering elements makes of its register. -/
def Collect.gathering : Collect → Gathering
  | .list => .list
  | .text => .text

/-- Between the rounds of a repetition the way back has to be known, and what is gathered where. -/
def Needs.gathering (start : IntSlot) (collect : Collect) (acc : Option ObjSlot) : Needs :=
  ⟨false, some start, acc.map fun dst => (dst, collect.gathering)⟩

/-- Between rounds the way back is known. -/
theorem Needs.Met.wayBack {start : IntSlot} {collect : Collect} {acc : Option ObjSlot} {k : Known}
    (met : (Needs.gathering start collect acc).Met k) : (Needs.wayBack start).Met k :=
  ⟨nofun, met.start, nofun⟩

namespace Lowering

open Assemble Machine Inference

variable {p : Program} {cx : Context} {a b : Assembler} {n : Nat} {N : Needs} {u : Unit}
  {slot : Option Slot} {child : RuleId}

/-- An action leads to a later stage. -/
theorem extends_of {α : Type} {m : Assemble α} [Grows m] {x : α} (h : m a = (x, b)) :
    a.Extends b := by
  have grows := Leads.leads (R := later) () (m := m) a
  rwa [h] at grows

/-! ## Sequences -/

/-- The code of a part is in order if the code behind it and at the label for failures is. -/
theorem flows_sequencePart {obj : Option ObjSlot} {fail : Label} {part : Part}
    (h : Emits (sequencePart cx obj fail part) a u b) (placed : Placed p b)
    (inside : ∀ dst ∈ obj, dst.index < p.objSlots) (none : N.gathers = none)
    (leap : p.Target n fail N) (rest : p.Flows n b.code.size N.away) :
    p.Flows n a.code.size N := by
  have spares := N.spares_of_none none
  unfold sequencePart at h
  split at h
  case h_1 field dst _ =>
    obtain ⟨src, c, called, writing, placed'⟩ := h.split placed
    have src_inside := (callObject_fresh called placed').2
    refine flows_callObject called placed' (N.inUse_of_none none a) leap (flows_next
      writing.assembled placed rfl ?_ trivial (fun _ _ => trivial) (fun _ => trivial)
      (fun k met => (met.set (spares _) _).set (spares _) _) rest)
    simpa [Instruction.slots, SlotInside] using ⟨inside dst rfl, src_inside⟩
  case h_2 => exact flows_callVoid h placed leap rest

/-- So is the code of a separator. -/
theorem flows_separate {separator : Option RuleId} {fail : Label} {first : Bool}
    (h : Emits (separate separator fail first) a u b) (placed : Placed p b)
    (leap : p.Target n fail N) (rest : p.Flows n b.code.size N.away) :
    p.Flows n a.code.size N := by
  unfold separate at h
  split at h
  · exact flows_callVoid h placed leap rest
  · obtain ⟨_, rfl⟩ := h.returned
    exact rest.mono fun _ met => met.away

/-- So is the code of all parts. -/
theorem flows_sequenceParts {separator : Option RuleId} {obj : Option ObjSlot} {fail : Label}
    {first : Bool} {parts : List Part}
    (h : Emits (sequenceParts cx separator obj fail first parts) a u b) (placed : Placed p b)
    (inside : ∀ dst ∈ obj, dst.index < p.objSlots) (none : N.gathers = none)
    (leap : p.Target n fail N.away) (rest : p.Flows n b.code.size N.away) :
    p.Flows n a.code.size N.away := by
  induction parts generalizing a first with
  | nil =>
    obtain ⟨_, rfl⟩ := h.returned
    exact rest
  | cons part parts ih =>
    unfold sequenceParts at h
    obtain ⟨_, a₁, separates, h₁, placed₁⟩ := h.split placed
    obtain ⟨_, a₂, matches', h₂, placed₂⟩ := h₁.split placed
    exact flows_separate separates placed₁ leap
      (flows_sequencePart (N := N.away) matches' placed₂ inside none leap (ih h₂))

/-- The code that sets an object up is in order if the code behind it is. -/
theorem flows_emptyObject {ty : Option String} {obj : Option ObjSlot}
    (h : emptyObject ty a = (obj, b)) (placed : Placed p b) (none : N.gathers = none)
    (rest : p.Flows n b.code.size N) : p.Flows n a.code.size N := by
  unfold emptyObject at h
  cases ty with
  | none =>
    cases h
    exact rest
  | some ty =>
    obtain ⟨dst, c, made, h, placed'⟩ := assemble_split h placed
    obtain ⟨_, d, emitted, h, _⟩ := assemble_split h placed
    cases h
    obtain ⟨fresh, size⟩ := objSlot_fresh made placed'
    rw [← size]
    refine flows_setObj emitted placed rfl ?_ trivial (fun _ => ⟨trivial, trivial⟩) (fun _ => rfl)
      (N.spares_of_none none _) rest
    simpa [Instruction.slots, SlotInside] using fresh.inside

/-- There is a register for the object exactly if the sequence has a type. -/
theorem emptyObject_result {ty : Option String} {obj : Option ObjSlot}
    (h : emptyObject ty a = (obj, b)) (placed : Placed p b) :
    ResultSlot p ((ty.map OutputType.object).getD .void) (obj.map .obj) ∧
      ∀ dst ∈ obj, dst.index < p.objSlots := by
  unfold emptyObject at h
  cases ty with
  | none =>
    cases h
    exact ⟨.void rfl, nofun⟩
  | some ty =>
    obtain ⟨dst, c, made, h, placed'⟩ := assemble_split h placed
    obtain ⟨_, d, emitted, h, _⟩ := assemble_split h placed
    cases h
    have inside := (objSlot_fresh made placed').1.inside
    exact ⟨.obj ⟨rfl, rfl⟩ inside, by rintro _ ⟨⟩; exact inside⟩

/-- The code of a sequence is in order. -/
theorem sequence_inOrder {ty : Option String} {parts : List Part} {separator : Option RuleId}
    (emits : Emits (sequence cx ty parts separator) a slot b) (placed : Placed p b)
    (laid : p.Laid b.code.size) (typed : cx.output = (ty.map OutputType.object).getD .void) :
    InOrder p cx.output a slot := by
  unfold sequence at emits
  cases checked : checkSequence cx ty parts with
  | error e =>
    rw [checked] at emits
    exact emits.not_thrown.elim
  | ok =>
    rw [checked] at emits
    obtain ⟨start, a₁, saved, e₁, placed₁⟩ := emits.step placed
    obtain ⟨fail, a₂, labelled, e₂, placed₂⟩ := e₁.step placed
    obtain ⟨obj, a₃, made, e₃, placed₃⟩ := e₂.step placed
    obtain ⟨_, a₄, matched, e₄, placed₄⟩ := e₃.split placed
    obtain ⟨_, a₅, returned, e₅, placed₅⟩ := e₄.step placed
    obtain ⟨_, a₆, tail, e₆, placed₆⟩ := e₅.step placed
    obtain ⟨rfl, rfl⟩ := e₆.returned
    obtain ⟨result, inside⟩ := emptyObject_result made placed₃
    refine ⟨fun n => ?_, typed ▸ result⟩
    obtain ⟨atFail, fails⟩ := flows_failBack (n := n) tail placed laid
      (savePos_fresh saved placed₁).inside
    refine flows_start saved placed₁ (flows_still (newLabel_still labelled)
      (flows_emptyObject made placed₃ rfl ?_))
    exact flows_sequenceParts (N := .wayBack start) matched placed₄ inside rfl fails
      (flows_succeed returned placed₅ atFail.laid)

/-! ## Alternatives -/

/-- A candidate that fails has not moved, so the next one is tried where the rule began. -/
theorem flows_tryCandidates {result : Option Slot} {done : Label} {candidates : List RuleId}
    (h : Emits (tryCandidates cx result done candidates) a u b) (placed : Placed p b)
    (inside : SlotInside p result) (leap : p.Target n done .nothing)
    (rest : p.Flows n b.code.size .atHome) : p.Flows n a.code.size .atHome := by
  induction candidates generalizing a with
  | nil =>
    obtain ⟨_, rfl⟩ := h.returned
    exact rest
  | cons candidate candidates ih =>
    unfold tryCandidates at h
    obtain ⟨next, a₁, labelled, h₁, placed₁⟩ := h.step placed
    obtain ⟨_, a₂, called, h₂, placed₂⟩ := h₁.split placed
    obtain ⟨_, a₃, jumped, h₃, placed₃⟩ := h₂.step placed
    obtain ⟨_, a₄, marked, h₄, placed₄⟩ := h₃.step placed
    obtain ⟨atNext, tries⟩ := flows_mark marked placed₄ (ih h₄)
    exact flows_still (newLabel_still labelled) (flows_callInto called placed₂ inside rfl tries
      (flows_jump jumped placed₃ atNext.laid leap).weaken)

/-- The code of an alternative is in order. -/
theorem alternative_inOrder {base : Option String} {candidates : List RuleId}
    (emits : Emits (alternative cx base candidates) a slot b) (placed : Placed p b)
    (laid : p.Laid b.code.size) : InOrder p cx.output a slot := by
  unfold alternative at emits
  cases checked : checkAlternative cx base candidates with
  | error e =>
    rw [checked] at emits
    exact emits.not_thrown.elim
  | ok =>
    rw [checked] at emits
    obtain ⟨result, a₁, made, e₁, placed₁⟩ := emits.step placed
    obtain ⟨done, a₂, labelled, e₂, placed₂⟩ := e₁.step placed
    obtain ⟨_, a₃, tried, e₃, placed₃⟩ := e₂.split placed
    obtain ⟨_, a₄, failed, e₄, placed₄⟩ := e₃.step placed
    obtain ⟨_, a₅, marked, e₅, placed₅⟩ := e₄.step placed
    obtain ⟨_, a₆, returned, e₆, placed₆⟩ := e₅.step placed
    obtain ⟨rfl, rfl⟩ := e₆.returned
    obtain ⟨fresh, size₁⟩ := slotFor_fresh made placed₁
    refine ⟨fun n => ?_, fresh.result⟩
    obtain ⟨atDone, succeeds⟩ := flows_mark (n := n) (N := .nothing) marked placed₅
      (flows_succeed returned placed laid)
    rw [← size₁]
    exact flows_still (newLabel_still labelled) (flows_tryCandidates tried placed₃
      fresh.result.inside succeeds (flows_fail failed placed₄ atDone.laid rfl))

/-! ## Repetitions -/

/-- The register for what is gathered, if there is one, is set up for that. -/
theorem flows_accumulator {element : RuleId} {collect : Collect} {acc : Option ObjSlot}
    {start : IntSlot} (h : accumulator cx element collect a = (acc, b)) (placed : Placed p b)
    (rest : p.Flows n b.code.size (.gathering start collect acc)) :
    p.Flows n a.code.size (.wayBack start) := by
  rcases accumulator_cases h placed with ⟨rfl, rfl, _⟩ | ⟨dst, a₁, rfl, made, placed₁, emitted, _⟩
  · exact rest.mono fun k met => ⟨nofun, met.start, nofun⟩
  · obtain ⟨fresh, size⟩ := objSlot_fresh made placed₁
    have sets (k : Known) (met : (Needs.wayBack start).Met k) :
        (Needs.gathering start collect (some dst)).Met (k.set dst (some collect.gathering)) := by
      refine ⟨nofun, met.start, ?_⟩
      rintro _ ⟨⟩
      simp [Known.set]
    rw [← size]
    cases collect with
    | list =>
      refine flows_next emitted placed rfl ?_ trivial (fun _ _ => trivial) (fun _ => trivial) sets
        rest
      simpa [Collect.setUp, Instruction.slots, SlotInside] using fresh.inside
    | text =>
      refine flows_next emitted placed rfl ?_ trivial (fun _ _ => trivial) (fun _ => trivial) sets
        rest
      simpa [Collect.setUp, Instruction.slots, SlotInside] using fresh.inside

/-- An item that is not in the register for what is gathered is added to it. -/
theorem gathers_item {start : IntSlot} {collect : Collect} {dst item : ObjSlot} {k : Known}
    (met : (Needs.gathering start collect (some dst)).Met k) (other : dst ≠ item) :
    (k.set item none).gathers dst = some collect.gathering := by
  have gathers := met.gathers (dst, collect.gathering) rfl
  simpa [Known.set, other] using gathers

/-- The code that appends to a text is in order where the text has been set up. -/
theorem flows_appendText {start : IntSlot} {text : ObjSlot} {item : Option Slot}
    (h : appendText text item a = (u, b)) (placed : Placed p b) (inside : text.index < p.objSlots)
    (inside' : SlotInside p item) (other : item ≠ some (.obj text))
    (rest : p.Flows n b.code.size (.gathering start .text (some text))) :
    p.Flows n a.code.size (.gathering start .text (some text)) := by
  unfold appendText at h
  rcases item with _ | raw | obj
  · cases h
    exact rest
  · refine flows_next h placed rfl ?_ trivial (fun k met => met.gathers (text, .text) rfl)
      (fun _ => trivial) (fun _ met => met) rest
    simpa [Instruction.slots, SlotInside] using ⟨inside, inside'⟩
  · have differs : text ≠ obj := fun same => other (by rw [same])
    refine flows_next h placed rfl ?_ trivial (fun k met => gathers_item met differs)
      (fun _ => trivial) (fun k met => met.set ?_ none) rest
    · simpa [Instruction.slots, SlotInside] using ⟨inside, inside'⟩
    · rintro _ ⟨⟩ same
      exact other (same.symm ▸ rfl)

/-- The code that gathers an element is in order where the register for what is gathered has been
set up. -/
theorem flows_gatherElement {element : RuleId} {collect : Collect} {acc : Option ObjSlot}
    {rollback : Label} {start : IntSlot}
    (h : Emits (gatherElement cx element collect acc rollback) a u b) (placed : Placed p b)
    (inUse : ∀ dst ∈ acc, dst.index < a.objSlots)
    (leap : p.Target n rollback (.gathering start collect acc))
    (rest : p.Flows n b.code.size (.gathering start collect acc)) :
    p.Flows n a.code.size (.gathering start collect acc) := by
  have used : (Needs.gathering start collect acc).InUse a := by
    intro x member
    obtain ⟨dst, there, rfl⟩ := Option.map_eq_some_iff.mp member
    exact inUse dst there
  have inside : ∀ dst ∈ acc, dst.index < p.objSlots := fun dst member =>
    Nat.lt_of_lt_of_le (inUse dst member) (placed.of_extends h.extends').objSlots
  unfold gatherElement at h
  split at h
  case h_1 text =>
    obtain ⟨item, c, called, appending, placed'⟩ := h.split placed
    have fresh := callNatural_fresh called placed'
    refine flows_callNatural called placed' used leap (flows_appendText appending.assembled placed
      (inside text rfl) fresh.result.inside (fun same => ?_) rest)
    exact spares_fresh used fresh (text, .text) rfl same
  case h_2 list _ =>
    obtain ⟨item, c, called, pushing, placed'⟩ := h.split placed
    obtain ⟨fresh, item_inside⟩ := callObject_fresh called placed'
    have differs : list ≠ item := by
      rintro rfl
      exact Nat.not_le.mpr (inUse list rfl) fresh
    cases collect with
    | text => contradiction
    | list =>
      refine flows_callObject called placed' used leap (flows_next pushing.assembled placed rfl ?_
        trivial (fun k met => gathers_item met differs) (fun _ => trivial)
        (fun k met => met.set ?_ none) rest)
      · simpa [Instruction.slots, SlotInside] using ⟨inside list rfl, item_inside⟩
      · rintro _ ⟨⟩ ⟨⟩
        exact differs rfl
  case h_3 => exact flows_callVoid h placed leap rest

/-- The test for the greatest number of elements is in order if the code on both sides is. -/
theorem flows_testGreatest {count : IntSlot} {max : Option Nat} {done : Label}
    (h : testGreatest count max done a = (u, b)) (placed : Placed p b)
    (inside : count.index < p.intSlots) (leap : p.Target n done N)
    (rest : p.Flows n b.code.size N) : p.Flows n a.code.size N := by
  unfold testGreatest at h
  cases max with
  | none =>
    cases h
    exact rest
  | some bound => exact flows_jumpIf h placed inside leap rest

/-- So is the test for the least number of elements. -/
theorem flows_testLeast {count : IntSlot} {min : Nat} {fail : Label}
    (h : testLeast count min fail a = (u, b)) (placed : Placed p b)
    (inside : count.index < p.intSlots) (leap : p.Target n fail N)
    (rest : p.Flows n b.code.size N) : p.Flows n a.code.size N := by
  unfold testLeast at h
  split at h
  · exact flows_jumpIf h placed inside leap rest
  · cases h
    exact rest

/-- So is the code of the separator between elements. -/
theorem flows_separateElement {count : IntSlot} {separator : Option RuleId} {first done : Label}
    (h : Emits (separateElement count separator first done) a u b) (placed : Placed p b)
    (inside : count.index < p.intSlots) (leap : p.Target n first N.away)
    (leap' : p.Target n done N.away) (rest : p.Flows n b.code.size N.away) :
    p.Flows n a.code.size N.away := by
  unfold separateElement at h
  cases separator with
  | none =>
    obtain ⟨_, rfl⟩ := h.returned
    exact rest
  | some separator =>
    obtain ⟨_, c, compared, called, placed'⟩ := h.step placed
    exact flows_jumpIf compared placed' inside leap (flows_callVoid called placed leap' rest)

section

variable {element : RuleId} {separator : Option RuleId} {min : Nat} {max : Option Nat}
  {collect : Collect} {start count iter : IntSlot} {acc : Option ObjSlot} {labels : LoopLabels}

/-- The code in front of the first round is in order if the rounds are. -/
theorem flows_opening (code : OpeningCode p cx element collect a start count acc b)
    (rest : p.Flows n b.code.size (.gathering start collect acc)) :
    p.Flows n a.code.size .atHome := by
  have inside := code.slots.inside
  obtain ⟨saved, placed₁, labelled, made, placed₃, zeroed, placed₄, gathers, placed⟩ := code
  refine flows_start saved placed₁ (flows_still labelled ?_)
  rw [← (intSlot_fresh made placed₃).2]
  exact flows_loadImm zeroed placed₄ inside (flows_accumulator gathers placed rest)

/-- The ends of a repetition are in order where the way back is known. -/
theorem flows_ends (code : EndsCode p min start count iter labels a b)
    {c : Assembler} (slots : LoopSlots p c start count) (iter_inside : iter.index < p.intSlots)
    (laid : p.Laid b.code.size) :
    p.Flows n a.code.size (.wayBack start) ∧ p.Target n labels.accept (.wayBack start) ∧
      p.Target n labels.done (.wayBack start) ∧ p.Target n labels.rollback (.wayBack start) := by
  obtain ⟨undoes, placed₁, restored, placed₂, ends, placed₃, tested, placed₄, accepts, placed₅,
    returned, placed₆, tail, placed⟩ := code
  obtain ⟨atFail, fails⟩ := flows_failBack (n := n) tail placed laid
    (Nat.lt_trans slots.order slots.inside)
  obtain ⟨atAccept, accepts⟩ := flows_mark accepts placed₅
    (flows_succeed returned placed₆ atFail.laid)
  obtain ⟨atDone, ends⟩ := flows_mark ends placed₃
    (flows_testLeast tested placed₄ slots.inside fails atAccept)
  obtain ⟨atRollback, undoes⟩ := flows_mark (N := .wayBack start) undoes placed₁
    (flows_restorePos restored placed₂ iter_inside atDone)
  exact ⟨atRollback, accepts, ends, undoes⟩

/-- The code of a round is in order if the ways out of it are, and going back to the top is one step
later. -/
theorem flows_round (code : RoundCode p cx element separator max collect count iter acc labels a b)
    (slots : LoopSlots p a start count) (used : ∀ dst ∈ acc, dst.index < a.objSlots)
    (accepts : p.Target (n + 1) labels.accept (.gathering start collect acc))
    (ends : p.Target (n + 1) labels.done (.gathering start collect acc))
    (undoes : p.Target (n + 1) labels.rollback (.gathering start collect acc))
    (laid : p.Laid b.code.size) (again : p.Target n labels.top (.gathering start collect acc)) :
    p.Flows (n + 1) a.code.size (.gathering start collect acc) := by
  obtain ⟨order, _, count_inside⟩ := slots
  obtain @⟨c, d, head, gathers, placed, tail⟩ := code
  obtain ⟨iter_index, ints, objs, iter_inside⟩ := head.fresh
  have ints' := gathers.extends'.intSlots
  obtain @⟨_, _, _, after, increased, placed₁, saved, placed₂, compared, placed₃, jumped,
    placed₄⟩ := tail
  obtain ⟨after_index, _, _, after_inside⟩ := savePos_fresh saved placed₂
  rw [(emit_found increased placed₁).2.2.1] at after_index
  have after_other : ∀ r ∈ (Needs.gathering start collect acc).start, r ≠ after := by
    rintro r ⟨⟩ rfl
    omega
  have atElement : p.Flows (n + 1) c.code.size (.gathering start collect acc) :=
    flows_gatherElement gathers placed (fun dst member => objs ▸ used dst member) undoes
      (flows_addImm increased placed₁ count_inside (flows_savePos saved placed₂ after_other
        (flows_jumpIfSlot compared placed₃ after_inside iter_inside accepts
          (flows_jump jumped placed₄ laid again))))
  obtain ⟨begins, placed₅, tested, placed₆, saved, placed₇, separates, placed₈, marked, placed₉⟩ :=
    head
  have iter_other : ∀ r ∈ (Needs.gathering start collect acc).start, r ≠ iter := by
    rintro r ⟨⟩ rfl
    omega
  obtain ⟨atFirst, first⟩ := flows_mark marked placed₉ atElement
  exact flows_still (mark_placed begins placed₅).2 (flows_testGreatest tested placed₆ count_inside
    ends (flows_savePos saved placed₇ iter_other
      (flows_separateElement (N := .gathering start collect acc) separates placed₈ count_inside
        first ends atFirst)))

/-- There is code for a round. -/
theorem RoundCode.top
    (code : RoundCode p cx element separator max collect count iter acc labels a b) :
    p.labels[labels.top.index]? = some (some a.code.size) ∧ a.code.size < p.code.size := by
  obtain ⟨head, gathers, placed, tail⟩ := code
  obtain ⟨begins, placed₁, tested, placed₂, saved, placed₃, separates, placed₄, marked, placed₅⟩ :=
    head
  obtain ⟨increased, placed₆⟩ := tail
  have ahead := (extends_of begins).trans ((extends_of tested).trans ((extends_of saved).trans
    (separates.extends'.trans ((extends_of marked).trans gathers.extends'))))
  exact ⟨(mark_placed begins placed₁).1, Nat.lt_of_le_of_lt ahead.size
    (Array.getElem?_eq_some_iff.mp (emit_found increased placed₆).1).1⟩

end

/-- The code of a repetition is in order. -/
theorem repetition_inOrder {element : RuleId} {separator : Option RuleId} {min : Nat}
    {max : Option Nat} {collect : Collect}
    (emits : Emits (repetition cx element separator min max collect) a slot b)
    (placed : Placed p b) (laid : p.Laid b.code.size)
    (typed : if collect = .list ∧ cx.grammar.outputOf element = .void then cx.output = .void
      else Boxed cx.output) : InOrder p cx.output a slot := by
  obtain ⟨start, count, iter, acc, labels, top, bottom, rfl, opening, round, ending⟩ :=
    repetition_code emits placed
  have slots := opening.slots
  obtain ⟨topPlace, inside⟩ := round.top
  refine ⟨fun n => flows_opening opening ?_, opening.result typed⟩
  refine Program.flows_loop topPlace inside (fun n again => ?_) n
  obtain ⟨rest, accepts, ends, undoes⟩ :=
    flows_ends (n := n + 1) ending slots round.iter_inside laid
  exact flows_round round slots opening.used (accepts.mono fun _ met => met.wayBack)
    (ends.mono fun _ met => met.wayBack) (undoes.mono fun _ met => met.wayBack) rest.laid again

/-! ## Other composites -/

/-- The code for the value of an absent child is in order if the code behind it is. -/
theorem flows_loadAbsent {output : OutputType} {result : Option Slot}
    (h : loadAbsent output result a = (u, b)) (placed : Placed p b)
    (inside : SlotInside p result) (none : N.gathers = none)
    (rest : p.Flows n b.code.size N) : p.Flows n a.code.size N := by
  have spares := N.spares_of_none none
  unfold loadAbsent at h
  split at h
  · exact flows_loadValue h placed inside (spares _) rest
  · refine flows_next h placed rfl ?_ trivial (fun _ _ => trivial) (fun _ => trivial)
      (fun k met => met.set (spares _) _) rest
    simpa [Instruction.slots] using inside
  · exact flows_loadValue h placed inside (spares _) rest
  · cases h
    exact rest

/-- The code of an optional rule is in order. -/
theorem optional_inOrder (emits : Emits (optional cx child) a slot b) (placed : Placed p b)
    (laid : p.Laid b.code.size) : InOrder p cx.output a slot := by
  unfold optional at emits
  obtain ⟨result, a₁, made, e₁, placed₁⟩ := emits.step placed
  obtain ⟨absent, a₂, l₂, e₂, placed₂⟩ := e₁.step placed
  obtain ⟨done, a₃, l₃, e₃, placed₃⟩ := e₂.step placed
  obtain ⟨_, a₄, called, e₄, placed₄⟩ := e₃.split placed
  obtain ⟨_, a₅, jumped, e₅, placed₅⟩ := e₄.step placed
  obtain ⟨_, a₆, absentMarked, e₆, placed₆⟩ := e₅.step placed
  obtain ⟨_, a₇, loaded, e₇, placed₇⟩ := e₆.step placed
  obtain ⟨_, a₈, doneMarked, e₈, placed₈⟩ := e₇.step placed
  obtain ⟨_, a₉, returned, e₉, placed₉⟩ := e₈.step placed
  obtain ⟨rfl, rfl⟩ := e₉.returned
  obtain ⟨fresh, size₁⟩ := slotFor_fresh made placed₁
  refine ⟨fun n => ?_, fresh.result⟩
  obtain ⟨atDone, ends⟩ := flows_mark (n := n) (N := .nothing) doneMarked placed₈
    (flows_succeed returned placed laid)
  obtain ⟨atAbsent, fails⟩ := flows_mark (N := .nothing) absentMarked placed₆
    (flows_loadAbsent loaded placed₇ fresh.result.inside rfl atDone)
  rw [← size₁]
  exact flows_still (newLabel_still l₂) (flows_still (newLabel_still l₃)
    (flows_callInto called placed₄ fresh.result.inside rfl
      (fails.mono fun k _ => nothing_met k)
      (flows_jump jumped placed₅ atAbsent.laid ends).weaken))

/-- The code of a rule that looks ahead is in order. -/
theorem lookAhead_inOrder (emits : Emits (lookAhead child) a slot b) (placed : Placed p b)
    (laid : p.Laid b.code.size) : InOrder p .void a slot := by
  unfold lookAhead at emits
  obtain ⟨start, a₁, saved, e₁, placed₁⟩ := emits.step placed
  obtain ⟨fail, a₂, labelled, e₂, placed₂⟩ := e₁.step placed
  obtain ⟨_, a₃, called, e₃, placed₃⟩ := e₂.split placed
  obtain ⟨_, a₄, restored, e₄, placed₄⟩ := e₃.step placed
  obtain ⟨_, a₅, returned, e₅, placed₅⟩ := e₄.step placed
  obtain ⟨_, a₆, tail, e₆, placed₆⟩ := e₅.step placed
  obtain ⟨rfl, rfl⟩ := e₆.returned
  refine ⟨fun n => ?_, .void rfl⟩
  obtain ⟨atFail, fails⟩ := flows_failHome (n := n) (N := ⟨true, some start, none⟩) tail placed
    laid rfl
  exact flows_savePos_home saved placed₁ rfl (flows_still (newLabel_still labelled)
    (flows_callVoid called placed₃ fails (flows_restorePos restored placed₄
      (savePos_fresh saved placed₁).inside (flows_succeed returned placed₅ atFail.laid))))

/-- Where the child matches, the run goes back before it fails. -/
theorem notAhead_inOrder (emits : Emits (notAhead child) a slot b) (placed : Placed p b)
    (laid : p.Laid b.code.size) : InOrder p .void a slot := by
  unfold notAhead at emits
  obtain ⟨start, a₁, saved, e₁, placed₁⟩ := emits.step placed
  obtain ⟨ok, a₂, labelled, e₂, placed₂⟩ := e₁.step placed
  obtain ⟨_, a₃, called, e₃, placed₃⟩ := e₂.split placed
  obtain ⟨_, a₄, restored, e₄, placed₄⟩ := e₃.step placed
  obtain ⟨_, a₅, failed, e₅, placed₅⟩ := e₄.step placed
  obtain ⟨_, a₆, marked, e₆, placed₆⟩ := e₅.step placed
  obtain ⟨_, a₇, returned, e₇, placed₇⟩ := e₆.step placed
  obtain ⟨rfl, rfl⟩ := e₇.returned
  refine ⟨fun n => ?_, .void rfl⟩
  obtain ⟨atOk, succeeds⟩ := flows_mark (n := n) (N := .wayBack start) marked placed₆
    (flows_succeed returned placed laid)
  exact flows_start saved placed₁ (flows_still (newLabel_still labelled)
    (flows_callVoid called placed₃ succeeds (flows_restorePos_home restored placed₄
      (savePos_fresh saved placed₁).inside rfl
      (flows_fail failed placed₅ atOk.laid rfl))))

/-- The code of a rule with an inner child between two others is in order. -/
theorem surround_inOrder {opening inner : RuleId} {closing : Option RuleId}
    (emits : Emits (surround cx opening inner closing) a slot b) (placed : Placed p b)
    (laid : p.Laid b.code.size) : InOrder p cx.output a slot := by
  unfold surround at emits
  obtain ⟨start, a₁, saved, e₁, placed₁⟩ := emits.step placed
  obtain ⟨fail, a₂, labelled, e₂, placed₂⟩ := e₁.step placed
  obtain ⟨result, a₃, made, e₃, placed₃⟩ := e₂.step placed
  obtain ⟨_, a₄, opened, e₄, placed₄⟩ := e₃.split placed
  obtain ⟨_, a₅, called, e₅, placed₅⟩ := e₄.split placed
  obtain ⟨_, a₆, closed, e₆, placed₆⟩ := e₅.split placed
  obtain ⟨_, a₇, returned, e₇, placed₇⟩ := e₆.step placed
  obtain ⟨_, a₈, tail, e₈, placed₈⟩ := e₇.step placed
  obtain ⟨rfl, rfl⟩ := e₈.returned
  obtain ⟨fresh, size₃⟩ := slotFor_fresh made placed₃
  refine ⟨fun n => ?_, fresh.result⟩
  obtain ⟨atFail, fails⟩ := flows_failBack (n := n) tail placed laid
    (savePos_fresh saved placed₁).inside
  refine flows_start saved placed₁ (flows_still (newLabel_still labelled) ?_)
  rw [← size₃]
  exact flows_callVoid opened placed₄ fails (flows_callInto called placed₅ fresh.result.inside rfl
    fails (flows_callVoid closed placed₆ fails (flows_succeed returned placed₇ atFail.laid)))

/-- A child that fails has not moved, so there is nothing to go back from. -/
theorem capture_inOrder (emits : Emits (capture child) a slot b) (placed : Placed p b)
    (laid : p.Laid b.code.size) : InOrder p .text a slot := by
  unfold capture at emits
  obtain ⟨start, a₁, saved, e₁, placed₁⟩ := emits.step placed
  obtain ⟨fail, a₂, labelled, e₂, placed₂⟩ := e₁.step placed
  obtain ⟨_, a₃, called, e₃, placed₃⟩ := e₂.split placed
  obtain ⟨out, a₄, made, e₄, placed₄⟩ := e₃.step placed
  obtain ⟨_, a₅, sliced, e₅, placed₅⟩ := e₄.step placed
  obtain ⟨_, a₆, returned, e₆, placed₆⟩ := e₅.step placed
  obtain ⟨_, a₇, tail, e₇, placed₇⟩ := e₆.step placed
  obtain ⟨rfl, rfl⟩ := e₇.returned
  obtain ⟨fresh, size₄⟩ := objSlot_fresh made placed₄
  refine ⟨fun n => ?_, .obj ⟨rfl, rfl⟩ fresh.inside⟩
  obtain ⟨atFail, fails⟩ := flows_failHome (n := n) (N := ⟨true, some start, none⟩) tail placed
    laid rfl
  refine flows_savePos_home saved placed₁ rfl (flows_still (newLabel_still labelled)
    (flows_callVoid called placed₃ fails ?_))
  rw [← size₄]
  refine flows_setObj sliced placed₅ rfl ?_ trivial (fun _ => ⟨trivial, trivial⟩) (fun _ => rfl)
    (Needs.spares_of_none rfl _) (flows_succeed returned placed₆ atFail.laid)
  simpa [Instruction.slots, SlotInside] using
    ⟨fresh.inside, (savePos_fresh saved placed₁).inside⟩

/-! ## Rules -/

/-- The code of a rule is in order. -/
theorem rule_inOrder [RegexEngine] {rule : Rule} (typed : WellTyped cx rule)
    (emits : Emits (body cx rule) a slot b) (placed : Placed p b) (laid : p.Laid b.code.size) :
    InOrder p cx.output a slot := by
  cases rule with
  | sequence ty parts separator =>
    refine sequence_inOrder emits placed laid ?_
    cases ty with
    | none => exact typed.fixed .void fun _ => rfl
    | some ty => exact typed.fixed (.object ty) fun _ => rfl
  | alternative base candidates => exact alternative_inOrder emits placed laid
  | repetition element separator min max collect =>
    exact repetition_inOrder emits placed laid typed.repetition
  | optional child => exact optional_inOrder emits placed laid
  | lookAhead child =>
    rw [typed.fixed .void fun _ => rfl]
    exact lookAhead_inOrder emits placed laid
  | not child =>
    rw [typed.fixed .void fun _ => rfl]
    exact notAhead_inOrder emits placed laid
  | surround opening inner closing => exact surround_inOrder emits placed laid
  | capture child =>
    rw [typed.fixed .text fun _ => rfl]
    exact capture_inOrder emits placed laid
  | _ =>
    refine leaf_inOrder ?_ emits placed laid typed.fixed
    trivial

/-- The program of a rule is in order once its callees have matchers. -/
theorem lowerRule_inOrder [RegexEngine] {g : Grammar} (inferred : g.Inferred) {model : ObjectModel}
    {id : RuleId} {p : Program} (lowered : (lowerRule g model id).result = .ok p)
    (handleOf : RuleId → Option Handle) (guard : RecursionCheck)
    (answered : ∀ c ∈ p.callees, ∃ h, handleOf c.rule = some h) :
    InOrder { p.link handleOf with recursion := guard } (g.outputOf id)
      (.start id (g.displayName id)) p.result := by
  obtain ⟨d, slot, b, assembled⟩ := assembled_of_lowerRule lowered
  have placed := assembled.placed handleOf guard answered
  have typed := wellTyped_of_inferred inferred assembled.found model (g.displayName id)
  have emits := assembled.emits
  obtain ⟨_, rfl⟩ := finish_eq assembled.finished
  refine rule_inOrder typed emits placed fun pc i le here => ?_
  exact absurd (Array.getElem?_eq_some_iff.mp here).1 (Nat.not_lt.mpr le)

end Lowering

end Packrat
