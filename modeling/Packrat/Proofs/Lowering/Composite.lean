import Packrat.Lowering.Rule
import Packrat.Proofs.Lowering.Call

/-!
# Programs of composite rules

A run of the program of a rule with children comes out in one of the ways in which the rule may,
given the ways in which its children may.

* `Agrees`, `RecordLike`: what is asked of types and of the object model.

Main statements: `sequence_concludes`, `alternative_concludes`, `optional_concludes`,
`lookAhead_concludes`, `notAhead_concludes`, `surround_concludes`, `capture_concludes`.
-/

namespace Packrat.Lowering

open Assemble Machine Meaning
open Text (Within)

variable {s : Scene} {Q : Goal} {cx : Context} {a b : Assembler} {regs : Registers} {pos : Nat}
  {u : Unit} {slot : Option Slot} {book : Book}

/-! ## Looking ahead -/

/-- The code of a rule that looks ahead for a child comes out as the rule may. -/
theorem lookAhead_concludes [RegexEngine] (sound : s.Sound) {child : RuleId}
    (emits : Emits (lookAhead child) a slot b) (placed : Placed s.program b)
    (result : s.program.result = slot) (output : s.program.output = .void) :
    s.Concludes (.of (Meaning.rule s.child s.env cx s.start (.lookAhead child)) book)
      a.code.size regs s.start := by
  unfold lookAhead at emits
  obtain ⟨start, a₁, saved, e₁, placed₁⟩ := emits.step placed
  obtain ⟨fail, a₂, labelled, e₂, placed₂⟩ := e₁.step placed
  obtain ⟨_, a₃, called, e₃, placed₃⟩ := e₂.split placed
  obtain ⟨_, a₄, restored, e₄, placed₄⟩ := e₃.step placed
  obtain ⟨_, a₅, returned, e₅, placed₅⟩ := e₄.step placed
  obtain ⟨_, a₆, tail, e₆, placed₆⟩ := e₅.step placed
  obtain ⟨rfl, rfl⟩ := e₆.returned
  have fresh := savePos_fresh saved placed₁
  obtain ⟨place, failed⟩ := concludes_failTail tail placed
  refine .intro fun fits _ => concludes_savePos sound saved placed₁
    (concludes_still (newLabel_still labelled) ?_)
  have kept := Registers.int_setInt fits fresh.inside s.start
  refine concludes_callVoid sound called placed₃ place ⟨?_, ?_, ?_⟩
  · intro value stop book comes _ _
    refine concludes_restorePos restored placed₄ fresh.inside kept .refl ?_
    exact concludes_succeed_void returned placed₅ result output
      (onMatch_matched comes ⟨rfl, rfl⟩)
  · intro book comes
    exact failed _ _ _ (by simp) (onMatch_failed comes)
  · intro fault book comes
    exact onMatch_faulted comes

/-- The code of a rule that looks ahead for the absence of a child comes out as the rule may. -/
theorem notAhead_concludes [RegexEngine] (sound : s.Sound) {child : RuleId}
    (emits : Emits (notAhead child) a slot b) (placed : Placed s.program b)
    (result : s.program.result = slot) (output : s.program.output = .void) :
    s.Concludes (.of (Meaning.rule s.child s.env cx s.start (.not child)) book) a.code.size regs
      s.start := by
  unfold notAhead at emits
  obtain ⟨start, a₁, saved, e₁, placed₁⟩ := emits.step placed
  obtain ⟨ok, a₂, labelled, e₂, placed₂⟩ := e₁.step placed
  obtain ⟨_, a₃, called, e₃, placed₃⟩ := e₂.split placed
  obtain ⟨_, a₄, restored, e₄, placed₄⟩ := e₃.step placed
  obtain ⟨_, a₅, refused, e₅, placed₅⟩ := e₄.step placed
  obtain ⟨_, a₆, marked, e₆, placed₆⟩ := e₅.step placed
  obtain ⟨_, a₇, returned, e₇, placed₇⟩ := e₆.step placed
  obtain ⟨rfl, rfl⟩ := e₇.returned
  have fresh := savePos_fresh saved placed₁
  obtain ⟨place, still₆⟩ := mark_placed marked placed₆
  refine .intro fun fits _ => concludes_savePos sound saved placed₁
    (concludes_still (newLabel_still labelled) ?_)
  have kept := Registers.int_setInt fits fresh.inside s.start
  refine concludes_callVoid sound called placed₃ place ⟨?_, ?_, ?_⟩
  · intro value stop book comes _ _
    refine concludes_restorePos restored placed₄ fresh.inside kept .refl ?_
    exact concludes_fail refused placed₅ ⟨_, _, comes, rfl, rfl⟩
  · intro book comes
    exact concludes_still still₆
      (concludes_succeed_void returned placed result output ⟨_, _, comes, rfl, rfl⟩)
  · intro fault book comes
    exact ⟨_, _, comes, rfl, rfl⟩

/-- The code of a rule for the text that a child consumes comes out as the rule may. -/
theorem capture_concludes [RegexEngine] (sound : s.Sound) {child : RuleId}
    (emits : Emits (capture child) a slot b) (placed : Placed s.program b)
    (result : s.program.result = slot) (output : s.program.output = .text) :
    s.Concludes (.of (Meaning.rule s.child s.env cx s.start (.capture child)) book) a.code.size regs
      s.start := by
  unfold capture at emits
  obtain ⟨start, a₁, saved, e₁, placed₁⟩ := emits.step placed
  obtain ⟨fail, a₂, labelled, e₂, placed₂⟩ := e₁.step placed
  obtain ⟨_, a₃, called, e₃, placed₃⟩ := e₂.split placed
  obtain ⟨out, a₄, made, e₄, placed₄⟩ := e₃.step placed
  obtain ⟨_, a₅, sliced, e₅, placed₅⟩ := e₄.step placed
  obtain ⟨_, a₆, returned, e₆, placed₆⟩ := e₅.step placed
  obtain ⟨_, a₇, tail, e₇, placed₇⟩ := e₆.step placed
  obtain ⟨rfl, rfl⟩ := e₇.returned
  have start_fresh := savePos_fresh saved placed₁
  obtain ⟨out_fresh, size₄⟩ := objSlot_fresh made placed₄
  obtain ⟨place, failed⟩ := concludes_failTail tail placed
  refine .intro fun fits _ => concludes_savePos sound saved placed₁
    (concludes_still (newLabel_still labelled) ?_)
  have kept := Registers.int_setInt fits start_fresh.inside s.start
  refine concludes_callVoid sound called placed₃ place ⟨?_, ?_, ?_⟩
  · intro value stop book comes within _
    rw [← size₄]
    refine concludes_slice sliced placed₅ out_fresh.inside start_fresh.inside kept within ?_
    exact concludes_succeed_obj returned placed₆ result out_fresh.inside (output ▸ ⟨rfl, rfl⟩)
      (Registers.obj_setObj (fits.setInt _ _) out_fresh.inside _)
      (onMatch_matched comes ⟨rfl, rfl⟩)
  · intro book comes
    exact failed _ _ _ (by simp) (onMatch_failed comes)
  · intro fault book comes
    exact onMatch_faulted comes

/-! ## Children as results -/

/-- The type of a child agrees with that of the rule where both are scalars. -/
def Agrees (cx : Context) (child : RuleId) : Prop :=
  cx.output.isScalar = true → (cx.grammar.outputOf child).isScalar = true →
    cx.grammar.outputOf child = cx.output

/-- A run ends with what is in the result register. -/
theorem concludes_result {value : Option Value} (h : ret true a = (u, b))
    (placed : Placed s.program b) (holds : ResultSlot s.program cx.output slot)
    (result : s.program.result = slot) (output : s.program.output = cx.output)
    (denotes : Denotes cx.output (regs.product slot) value) (out : Q (.matched value pos)) :
    s.Concludes Q a.code.size regs pos := by
  refine concludes_succeed h placed ?_ ?_ out
  · rw [result]
    exact holds.inside
  · rw [result, output]
    exact denotes

/-- The code of a rule with an inner child between two others comes out as the rule may. -/
theorem surround_concludes [RegexEngine] (sound : s.Sound) (grammar : s.grammar = cx.grammar)
    {opening inner : RuleId} {closing : Option RuleId}
    (emits : Emits (surround cx opening inner closing) a slot b) (placed : Placed s.program b)
    (result : s.program.result = slot) (output : s.program.output = cx.output)
    (agrees : Agrees cx inner) :
    s.Concludes (.of (Meaning.rule s.child s.env cx s.start (.surround opening inner closing)) book)
      a.code.size regs s.start := by
  unfold surround at emits
  obtain ⟨start, a₁, saved, e₁, placed₁⟩ := emits.step placed
  obtain ⟨fail, a₂, labelled, e₂, placed₂⟩ := e₁.step placed
  obtain ⟨dst, a₃, made, e₃, placed₃⟩ := e₂.step placed
  obtain ⟨_, a₄, opened, e₄, placed₄⟩ := e₃.split placed
  obtain ⟨_, a₅, filled, e₅, placed₅⟩ := e₄.split placed
  obtain ⟨_, a₆, closed, e₆, placed₆⟩ := e₅.split placed
  obtain ⟨_, a₇, returned, e₇, placed₇⟩ := e₆.step placed
  obtain ⟨_, a₈, tail, e₈, placed₈⟩ := e₇.step placed
  obtain ⟨rfl, rfl⟩ := e₈.returned
  have fresh := savePos_fresh saved placed₁
  have still := newLabel_still labelled
  obtain ⟨dst_fresh, size₃⟩ := slotFor_fresh made placed₃
  obtain ⟨intSlots₄, _⟩ := callVoid_slots opened placed₄
  obtain ⟨place, failed⟩ := concludes_failTail tail placed
  obtain ⟨used, apart⟩ := dst_fresh.apart (still.intSlots ▸ fresh.used)
  -- Wherever a child fails, the run goes back to the start.
  have undone (Q : Goal) (regs : Registers) (pos : Nat)
      (kept : regs.int start = s.start) (holds : Q .failed) :
      s.Concludes Q a₇.code.size regs pos := by
    refine failed Q regs pos ?_ holds
    rintro _ ⟨⟩
    exact ⟨fresh.inside, kept⟩
  refine .intro fun fits _ => concludes_savePos sound saved placed₁ (concludes_still still ?_)
  have kept := Registers.int_setInt fits fresh.inside s.start
  rw [← size₃]
  refine concludes_callVoid sound opened placed₄ place ⟨?_, ?_, ?_⟩
  · intro _ begun book₁ opens _ _
    refine concludes_callInto sound grammar filled placed₅ place dst_fresh.result agrees
      ⟨?_, ?_, ?_⟩
    · intro value mid book₂ comes _ _ regs' same denotes
      have kept' := (same start (intSlots₄ ▸ used) apart).trans kept
      refine concludes_callVoid sound closed placed₆ place ⟨?_, ?_, ?_⟩
      · intro _ stop book₃ closes _ _
        exact concludes_result returned placed₇ dst_fresh.result result output denotes
          (onMatch_matched opens (onMatch_matched comes (onMatch_matched closes ⟨rfl, rfl⟩)))
      · intro book₃ closes
        exact undone _ _ _ kept'
          (onMatch_matched opens (onMatch_matched comes (onMatch_failed closes)))
      · intro fault book₃ closes
        exact onMatch_matched opens (onMatch_matched comes (onMatch_faulted closes))
    · intro book₂ comes
      exact undone _ _ _ kept (onMatch_matched opens (onMatch_failed comes))
    · intro fault book₂ comes
      exact onMatch_matched opens (onMatch_faulted comes)
  · intro book₁ opens
    exact undone _ _ _ kept (onMatch_failed opens)
  · intro fault book₁ opens
    exact onMatch_faulted opens

/-- The value of an absent child is in the result register, if that takes values. -/
theorem concludes_loadAbsent {dst : Option Slot} (h : loadAbsent cx.output dst a = (u, b))
    (placed : Placed s.program b) (result : ResultSlot s.program cx.output dst)
    (notScalar : cx.output.isScalar = false)
    (rest : ∀ regs', Denotes cx.output (regs'.product dst) (absent cx.output) →
      s.Concludes Q b.code.size regs' pos) : s.Concludes Q a.code.size regs pos := by
  refine .intro fun fits _ => ?_
  cases result with
  | void void =>
    rw [loadAbsent] at h
    · cases h
      refine rest regs ?_
      rw [void]
      exact .void
    all_goals simp
  | int scalar =>
    rw [notScalar] at scalar
    cases scalar
  | @obj obj boxed inside =>
    have held (v : Value) : (regs.setObj obj v).product (some (.obj obj)) = .obj v :=
      congrArg Product.obj (Registers.obj_setObj fits inside v)
    unfold loadAbsent at h
    generalize cx.output = output at h rest boxed
    cases output
    case text =>
      refine concludes_loadText h placed inside (rest _ ?_)
      rw [held]
      exact .boxed boxed _
    case list =>
      refine concludes_setObj h placed (fun fits _ => execute_listNew fits inside) (rest _ ?_)
      rw [held]
      exact .boxed boxed _
    case void => cases boxed.1
    all_goals
      refine concludes_loadNull h placed inside (rest _ ?_)
      rw [held]
      exact .boxed boxed _

/-- The code of an optional rule comes out as the rule may. -/
theorem optional_concludes [RegexEngine] (sound : s.Sound) (grammar : s.grammar = cx.grammar)
    {child : RuleId} (emits : Emits (optional cx child) a slot b) (placed : Placed s.program b)
    (result : s.program.result = slot) (output : s.program.output = cx.output)
    (notScalar : cx.output.isScalar = false) :
    s.Concludes (.of (Meaning.rule s.child s.env cx s.start (.optional child)) book)
      a.code.size regs s.start := by
  unfold optional at emits
  obtain ⟨dst, a₁, made, e₁, placed₁⟩ := emits.step placed
  obtain ⟨absent, a₂, labelled, e₂, placed₂⟩ := e₁.step placed
  obtain ⟨done, a₃, labelled', e₃, placed₃⟩ := e₂.step placed
  obtain ⟨_, a₄, filled, e₄, placed₄⟩ := e₃.split placed
  obtain ⟨_, a₅, left, e₅, placed₅⟩ := e₄.step placed
  obtain ⟨_, a₆, absentMarked, e₆, placed₆⟩ := e₅.step placed
  obtain ⟨_, a₇, loaded, e₇, placed₇⟩ := e₆.step placed
  obtain ⟨_, a₈, doneMarked, e₈, placed₈⟩ := e₇.step placed
  obtain ⟨_, a₉, returned, e₉, placed₉⟩ := e₈.step placed
  obtain ⟨rfl, rfl⟩ := e₉.returned
  obtain ⟨fresh, size₁⟩ := slotFor_fresh made placed₁
  obtain ⟨absentPlace, still₆⟩ := mark_placed absentMarked placed₆
  obtain ⟨donePlace, still₈⟩ := mark_placed doneMarked placed₈
  have accepts {Q : Goal} {regs : Registers} {pos : Nat} {value : Option Value}
      (denotes : Denotes cx.output (regs.product dst) value) (out : Q (.matched value pos)) :
      s.Concludes Q a₇.code.size regs pos :=
    concludes_still still₈
      (concludes_result returned placed₉ fresh.result result output denotes out)
  rw [← size₁]
  refine concludes_still (newLabel_still labelled) (concludes_still (newLabel_still labelled') ?_)
  refine concludes_callInto sound grammar filled placed₄ absentPlace fresh.result
    (fun scalar => ?_) ⟨?_, ?_, ?_⟩
  · rw [notScalar] at scalar
    cases scalar
  · intro value stop book comes _ _ regs' _ denotes
    exact concludes_jump left placed₅ donePlace (accepts denotes ⟨_, _, comes, rfl, rfl⟩)
  · intro book comes
    refine concludes_still still₆ (concludes_loadAbsent loaded placed₇ fresh.result notScalar ?_)
    intro regs' denotes
    exact accepts denotes ⟨_, _, comes, rfl, rfl⟩
  · intro fault book comes
    exact ⟨_, _, comes, rfl, rfl⟩

/-! ## Alternatives -/

/-- A run that tries candidates goes on at the label with the value of the first that does not
fail, and behind them if all fail. -/
theorem concludes_tryCandidates (sound : s.Sound) (grammar : s.grammar = cx.grammar)
    {dst : Option Slot} {done : Label} {pc : Nat} {candidates : List RuleId}
    (emits : Emits (tryCandidates cx dst done candidates) a u b) (placed : Placed s.program b)
    (place : s.program.labels[done.index]? = some (some pc))
    (result : ResultSlot s.program cx.output dst)
    (agree : ∀ candidate ∈ candidates, Agrees cx candidate)
    (out : ∀ out book, firstOf s.child cx.output pos candidates Q.book out book → Q.at book out)
    (accepts : ∀ regs' value stop book, Denotes cx.output (regs'.product dst) value →
      Q.at book (.matched value stop) → s.Concludes (Q.at book) pc regs' stop)
    (refuses : ∀ regs' book, Q.at book .failed → s.Concludes (Q.at book) b.code.size regs' pos) :
    s.Concludes Q a.code.size regs pos := by
  induction candidates generalizing a regs u Q with
  | nil =>
    obtain ⟨_, rfl⟩ := emits.returned
    exact refuses regs Q.book (out _ _ ⟨rfl, rfl⟩)
  | cons candidate rest ih =>
    unfold tryCandidates at emits
    obtain ⟨next, a₁, labelled, e₁, placed₁⟩ := emits.step placed
    obtain ⟨_, a₂, filled, e₂, placed₂⟩ := e₁.split placed
    obtain ⟨_, a₃, left, e₃, placed₃⟩ := e₂.step placed
    obtain ⟨_, a₄, marked, e₄, placed₄⟩ := e₃.step placed
    obtain ⟨nextPlace, still₄⟩ := mark_placed marked placed₄
    refine concludes_still (newLabel_still labelled) ?_
    refine concludes_callInto sound grammar filled placed₂ nextPlace result
      (agree candidate (List.mem_cons_self ..)) ⟨?_, ?_, ?_⟩
    · intro value stop book comes _ _ regs' _ denotes
      exact concludes_jump left placed₃ place
        (accepts regs' _ stop book denotes (out _ _ ⟨_, _, comes, rfl, rfl⟩))
    · intro book comes
      refine concludes_still still₄ (ih e₄ ?_ ?_ accepts refuses)
      · exact fun other member => agree other (List.mem_cons_of_mem _ member)
      · exact fun later book' holds => out later book' ⟨_, _, comes, holds⟩
    · intro fault book comes
      exact out _ _ ⟨_, _, comes, rfl, rfl⟩

/-- The code of an alternative comes out as the rule may. -/
theorem alternative_concludes [RegexEngine] (sound : s.Sound) (grammar : s.grammar = cx.grammar)
    {base : Option String} {candidates : List RuleId}
    (emits : Emits (alternative cx base candidates) a slot b) (placed : Placed s.program b)
    (result : s.program.result = slot) (output : s.program.output = cx.output)
    (agree : ∀ candidate ∈ candidates, Agrees cx candidate) :
    s.Concludes (.of (Meaning.rule s.child s.env cx s.start (.alternative base candidates)) book)
      a.code.size regs s.start := by
  unfold alternative at emits
  cases checked : checkAlternative cx base candidates with
  | error e =>
    rw [checked] at emits
    exact emits.not_thrown.elim
  | ok =>
    rw [checked] at emits
    obtain ⟨dst, a₁, made, e₁, placed₁⟩ := emits.step placed
    obtain ⟨done, a₂, labelled, e₂, placed₂⟩ := e₁.step placed
    obtain ⟨_, a₃, tried, e₃, placed₃⟩ := e₂.split placed
    obtain ⟨_, a₄, refused, e₄, placed₄⟩ := e₃.step placed
    obtain ⟨_, a₅, marked, e₅, placed₅⟩ := e₄.step placed
    obtain ⟨_, a₆, returned, e₆, placed₆⟩ := e₅.step placed
    obtain ⟨rfl, rfl⟩ := e₆.returned
    obtain ⟨fresh, size₁⟩ := slotFor_fresh made placed₁
    obtain ⟨donePlace, still₅⟩ := mark_placed marked placed₅
    rw [← size₁]
    refine concludes_still (newLabel_still labelled) ?_
    refine concludes_tryCandidates sound grammar tried placed₃ donePlace fresh.result agree
      (fun _ _ holds => holds) ?_ ?_
    · intro regs' value stop book denotes holds
      exact concludes_still still₅
        (concludes_result returned placed fresh.result result output denotes holds)
    · intro regs' book holds
      exact concludes_fail refused placed₄ holds

/-! ## Sequences -/

/-- Objects are nodes with fields. -/
structure RecordLike (model : ObjectModel) : Prop where
  construct : ∀ ty, model.isConcrete ty = true → model.construct ty = some (.node ty #[])
  writeSlot : ∀ ty slots field fields v, model.slots ty = some slots →
    slots.contains field = true →
    model.writeSlot (.node ty fields) field v = .ok (.node ty (Fields.set fields field v))

/-- A record model makes empty records and writes their fields. -/
theorem recordLike_of_recordModel (m : RecordModel) : RecordLike m.toObjectModel where
  construct ty concrete := by
    simp only [RecordModel.toObjectModel, RecordModel.construct] at concrete ⊢
    cases declared : m.find? ty with
    | none =>
      rw [declared] at concrete
      cases concrete
    | some decl =>
      rw [declared] at concrete
      exact if_pos concrete
  writeSlot ty slots field fields v declared present := by
    obtain ⟨decl, found, rfl⟩ := Option.map_eq_some_iff.mp declared
    simp only [RecordModel.toObjectModel, RecordModel.writeSlot, found]
    exact if_pos present

/-- The part can be written to an object of the type if it is named. -/
def Writable (model : ObjectModel) (ty : Option String) (part : Part) : Prop :=
  ∀ field, part.name = some field → ∃ ty', ty = some ty' ∧ ∀ fields v,
    model.writeSlot (.node ty' fields) field v = .ok (.node ty' (Fields.set fields field v))

/-- The named parts of a sequence that passes the check can be written to its object. -/
theorem writable_of_checkParts {typed : Option (String × List String)} {parts : List Part}
    (record : RecordLike cx.model)
    (slots : ∀ ty names, typed = some (ty, names) → cx.model.slots ty = some names)
    (checked : checkParts cx typed parts = .ok ()) :
    ∀ part ∈ parts, Writable cx.model (typed.map Prod.fst) part := by
  induction parts with
  | nil => simp
  | cons part rest ih =>
    obtain ⟨_ | field, rule⟩ := part
    · rw [checkParts] at checked
      intro other member
      rcases List.mem_cons.mp member with rfl | member
      · intro field named
        cases named
      · exact ih checked other member
    · rw [checkParts.eq_def] at checked
      dsimp only at checked
      rcases typed with _ | ⟨ty, names⟩
      · cases checked
      · dsimp only at checked
        split at checked
        · cases checked
        case isFalse known =>
          split at checked
          · cases checked
          · intro other member
            rcases List.mem_cons.mp member with rfl | member
            · rintro _ ⟨⟩
              refine ⟨ty, rfl, fun fields v => record.writeSlot ty names _ fields v ?_ ?_⟩
              · exact slots ty names rfl
              · simpa using known
            · exact ih checked other member

/-- A sequence that passes the check can write its parts, and make its object if it has a type. -/
theorem writable_of_checkSequence {ty : Option String} {parts : List Part}
    (record : RecordLike cx.model) (checked : checkSequence cx ty parts = .ok ()) :
    (∀ part ∈ parts, Writable cx.model ty part) ∧
      ∀ ty', ty = some ty' → cx.model.construct ty' = some (.node ty' #[]) := by
  cases ty with
  | none => exact ⟨writable_of_checkParts record (by simp) checked, by simp⟩
  | some ty =>
    rw [checkSequence] at checked
    cases known : cx.model.slots ty with
    | none =>
      rw [known] at checked
      cases checked
    | some names =>
      rw [known] at checked
      dsimp only at checked
      split at checked
      case isTrue concrete =>
        refine ⟨writable_of_checkParts record ?_ checked, ?_⟩
        · rintro _ _ ⟨⟩
          exact known
        · rintro _ ⟨⟩
          exact record.construct ty concrete
      case isFalse => cases checked

/-- The object of a sequence, if it has one, with the fields written so far. -/
def Built (p : Program) (a : Assembler) (regs : Registers) (fields : Fields) :
    Option ObjSlot → Option String → Prop
  | some obj, some ty =>
    obj.index < a.objSlots ∧ obj.index < p.objSlots ∧ regs.obj obj = .node ty fields
  | none, none => True
  | _, _ => False

/-- A run goes on behind the separator in every way that the separator may come out. -/
theorem concludes_separate (sound : s.Sound) {separator : Option RuleId} {fail : Label} {pc : Nat}
    {first : Bool} (emits : Emits (separate separator fail first) a u b)
    (placed : Placed s.program b) (place : s.program.labels[fail.index]? = some (some pc))
    (matched : ∀ value mid book,
      separated s.child separator first pos Q.book (.matched value mid) book →
      Within s.env.text pos mid → s.Concludes (Q.at book) b.code.size regs mid)
    (failed : ∀ book, separated s.child separator first pos Q.book .failed book →
      s.Concludes (Q.at book) pc regs pos)
    (faulted : ∀ fault book,
      separated s.child separator first pos Q.book (.faulted fault) book →
      Q.at book (.faulted fault)) : s.Concludes Q a.code.size regs pos := by
  rcases separator with _ | separator <;> rcases first with _ | _
  · obtain ⟨_, rfl⟩ := emits.returned
    exact matched none pos _ ⟨rfl, rfl⟩ .refl
  · obtain ⟨_, rfl⟩ := emits.returned
    exact matched none pos _ ⟨rfl, rfl⟩ .refl
  · exact concludes_callVoid sound emits placed place
      ⟨fun value mid book comes within _ => matched value mid book comes within, failed, faulted⟩
  · obtain ⟨_, rfl⟩ := emits.returned
    exact matched none pos _ ⟨rfl, rfl⟩ .refl

/-- A separator takes no registers. -/
theorem separate_slots {p : Program} {separator : Option RuleId} {fail : Label} {first : Bool}
    (emits : Emits (separate separator fail first) a u b) (placed : Placed p b) :
    b.intSlots = a.intSlots ∧ b.objSlots = a.objSlots := by
  rcases separator with _ | separator <;> rcases first with _ | _
  · obtain ⟨_, rfl⟩ := emits.returned
    exact ⟨rfl, rfl⟩
  · obtain ⟨_, rfl⟩ := emits.returned
    exact ⟨rfl, rfl⟩
  · exact callVoid_slots emits placed
  · obtain ⟨_, rfl⟩ := emits.returned
    exact ⟨rfl, rfl⟩

/-- A part is matched and, if it is named, written. -/
theorem concludes_sequencePart (sound : s.Sound) (grammar : s.grammar = cx.grammar)
    {ty : Option String} {obj : Option ObjSlot} {fail : Label} {pc : Nat} {part : Part}
    {fields : Fields} (emits : Emits (sequencePart cx obj fail part) a u b)
    (placed : Placed s.program b) (place : s.program.labels[fail.index]? = some (some pc))
    (writable : Writable s.env.model ty part) (built : Built s.program a regs fields obj ty)
    (goesOn : Continues s Q part.rule pos pc regs fun value stop Q =>
      ∀ regs', (∀ slot : IntSlot, slot.index < a.intSlots → regs'.int slot = regs.int slot) →
        Built s.program a regs' (written fields part.name value) obj ty →
        s.Concludes Q b.code.size regs' stop) : s.Concludes Q a.code.size regs pos := by
  obtain ⟨name, rule⟩ := part
  rcases name with _ | field
  · refine concludes_callVoid sound emits placed place
      ⟨fun value stop book comes within typed => ?_, goesOn.failed, goesOn.faulted⟩
    exact goesOn.matched value stop book comes within typed regs (fun _ _ => rfl) built
  · obtain ⟨ty', rfl, writes⟩ := writable field rfl
    cases obj with
    | none => exact built.elim
    | some obj =>
      obtain ⟨used, inside, held⟩ := built
      obtain ⟨src, c, called, e₁, placed₁⟩ := emits.split placed
      have set := e₁.assembled
      obtain ⟨fresh, inside'⟩ := callObject_fresh called placed₁
      refine concludes_callObject sound grammar called placed₁ place
        ⟨fun value stop book comes within typed regs₁ keeps filled => ?_, goesOn.failed,
          goesOn.faulted⟩
      refine concludes_setField set placed inside inside' (by omega)
        (by rw [keeps.obj obj used, held, filled]; exact writes fields _) ?_
      intro regs₂ same stored
      refine goesOn.matched value stop book comes within typed regs₂ (fun slot used => ?_)
        ⟨used, inside, stored⟩
      exact (same slot).trans (keeps.int slot used)

/-- An object that is built is so at later stages. -/
theorem Built.mono {p : Program} {fields : Fields} {obj : Option ObjSlot} {ty : Option String}
    (le : a.objSlots ≤ b.objSlots) (built : Built p a regs fields obj ty) :
    Built p b regs fields obj ty := by
  cases obj with
  | none => cases ty <;> exact built
  | some obj =>
    cases ty with
    | none => exact built
    | some ty => exact ⟨Nat.lt_of_lt_of_le built.1 le, built.2⟩

/-- Parts are matched one after the other; where one fails the run goes to the label, with the
start still kept. -/
theorem concludes_sequenceParts (sound : s.Sound) (grammar : s.grammar = cx.grammar)
    {ty : Option String} {separator : Option RuleId} {obj : Option ObjSlot} {fail : Label}
    {pc : Nat} {first : Bool} {items : List Part} {fields : Fields} {start : IntSlot}
    (emits : Emits (sequenceParts cx separator obj fail first items) a u b)
    (placed : Placed s.program b) (place : s.program.labels[fail.index]? = some (some pc))
    (writable : ∀ part ∈ items, Writable s.env.model ty part)
    (built : Built s.program a regs fields obj ty)
    (used : start.index < a.intSlots) (kept : regs.int start = s.start)
    (out : ∀ out book, Meaning.parts s.child ty separator first items fields pos Q.book out book →
      Q.at book out)
    (done : ∀ regs' fields' stop book, Built s.program b regs' fields' obj ty →
      Q.at book (.matched (ty.map fun ty => .node ty fields') stop) →
      s.Concludes (Q.at book) b.code.size regs' stop)
    (failed : ∀ (regs' : Registers) (pos' : Nat) (book : Book), regs'.int start = s.start →
      Q.at book .failed → s.Concludes (Q.at book) pc regs' pos') :
    s.Concludes Q a.code.size regs pos := by
  induction items generalizing a regs u pos first fields Q with
  | nil =>
    obtain ⟨_, rfl⟩ := emits.returned
    exact done regs fields pos Q.book built (out _ _ ⟨rfl, rfl⟩)
  | cons part rest ih =>
    unfold sequenceParts at emits
    obtain ⟨_, a₁, between, e₁, placed₁⟩ := emits.split placed
    obtain ⟨_, a₂, matched, e₂, placed₂⟩ := e₁.split placed
    obtain ⟨intSlots₁, objSlots₁⟩ := separate_slots between placed₁
    have later := matched.extends'
    refine concludes_separate sound between placed₁ place ?_ ?_ ?_
    · intro value mid book₁ separates _
      refine concludes_sequencePart sound grammar matched placed₂ place
        (writable part (List.mem_cons_self ..)) (built.mono (Nat.le_of_eq objSlots₁.symm))
        ⟨?_, ?_, ?_⟩
      · intro value' stop book₂ comes _ _ regs' same built'
        refine ih e₂ (fun other member => writable other (List.mem_cons_of_mem _ member))
          (built'.mono later.objSlots) ?_ ?_ ?_ done failed
        · exact Nat.lt_of_lt_of_le used (intSlots₁ ▸ later.intSlots)
        · exact (same start (intSlots₁ ▸ used)).trans kept
        · exact fun o book holds =>
            out o book (onMatch_matched separates (onMatch_matched comes holds))
      · intro book₂ comes
        exact failed _ _ _ kept (out _ _ (onMatch_matched separates (onMatch_failed comes)))
      · intro fault book₂ comes
        exact out _ _ (onMatch_matched separates (onMatch_faulted comes))
    · intro book₁ separates
      exact failed _ _ _ kept (out _ _ (onMatch_failed separates))
    · intro fault book₁ separates
      exact out _ _ (onMatch_faulted separates)

/-- The object of a sequence is there, without fields, before the first part. -/
theorem concludes_emptyObject {ty : Option String} {obj : Option ObjSlot}
    (h : emptyObject ty a = (obj, b)) (placed : Placed s.program b)
    (construct : ∀ ty', ty = some ty' → s.env.model.construct ty' = some (.node ty' #[]))
    (rest : ∀ regs', (∀ slot, regs'.int slot = regs.int slot) →
      Built s.program b regs' #[] obj ty → s.Concludes Q b.code.size regs' pos) :
    s.Concludes Q a.code.size regs pos := by
  unfold emptyObject at h
  cases ty with
  | none =>
    cases h
    exact rest regs (fun _ => rfl) trivial
  | some ty =>
    obtain ⟨dst, a₁, made, h₁, placed₁⟩ := assemble_split h placed
    obtain ⟨_, a₂, emitted, h₂, placed₂⟩ := assemble_split h₁ placed
    cases h₂
    obtain ⟨fresh, size⟩ := objSlot_fresh made placed₁
    obtain ⟨_, _, _, objSlots⟩ := emit_found emitted placed₂
    rw [← size]
    refine .intro fun fits _ => concludes_setObj emitted placed
      (fun fits _ => execute_construct fits fresh.inside (construct ty rfl)) ?_
    refine rest _ (fun _ => rfl) ⟨?_, fresh.inside, Registers.obj_setObj fits fresh.inside _⟩
    rw [objSlots]
    exact fresh.used

/-- An empty object takes no integer register. -/
theorem emptyObject_slots {p : Program} {ty : Option String} {obj : Option ObjSlot}
    (h : emptyObject ty a = (obj, b)) (placed : Placed p b) : b.intSlots = a.intSlots := by
  unfold emptyObject at h
  cases ty with
  | none =>
    cases h
    rfl
  | some ty =>
    obtain ⟨dst, a₁, made, h₁, placed₁⟩ := assemble_split h placed
    obtain ⟨_, a₂, emitted, h₂, placed₂⟩ := assemble_split h₁ placed
    cases h₂
    obtain ⟨_, _, intSlots, _⟩ := emit_found emitted placed₂
    exact intSlots.trans (objSlot_fresh made placed₁).1.intSlots

/-- The code of a sequence comes out as the rule may. -/
theorem sequence_concludes [RegexEngine] (sound : s.Sound) (grammar : s.grammar = cx.grammar)
    (model : s.env.model = cx.model) (record : RecordLike cx.model) {ty : Option String}
    {items : List Part} {separator : Option RuleId}
    (emits : Emits (sequence cx ty items separator) a slot b) (placed : Placed s.program b)
    (result : s.program.result = slot) (output : s.program.output = cx.output)
    (typed : cx.output = (ty.map OutputType.object).getD .void) :
    s.Concludes (.of (Meaning.rule s.child s.env cx s.start (.sequence ty items separator)) book)
      a.code.size regs s.start := by
  unfold sequence at emits
  cases checked : checkSequence cx ty items with
  | error e =>
    rw [checked] at emits
    exact emits.not_thrown.elim
  | ok =>
    obtain ⟨writable, construct⟩ := writable_of_checkSequence record checked
    rw [← model] at writable construct
    rw [checked] at emits
    obtain ⟨start, a₁, saved, e₁, placed₁⟩ := emits.step placed
    obtain ⟨fail, a₂, labelled, e₂, placed₂⟩ := e₁.step placed
    obtain ⟨obj, a₃, made, e₃, placed₃⟩ := e₂.step placed
    obtain ⟨_, a₄, matched, e₄, placed₄⟩ := e₃.split placed
    obtain ⟨_, a₅, returned, e₅, placed₅⟩ := e₄.step placed
    obtain ⟨_, a₆, tail, e₆, placed₆⟩ := e₅.step placed
    obtain ⟨same, rfl⟩ := e₆.returned
    have fresh := savePos_fresh saved placed₁
    have still := newLabel_still labelled
    obtain ⟨place, failed⟩ := concludes_failTail tail placed
    have used : start.index < a₃.intSlots := by
      rw [emptyObject_slots made placed₃, still.intSlots]
      exact fresh.used
    refine .intro fun fits _ => concludes_savePos sound saved placed₁ (concludes_still still ?_)
    have kept := Registers.int_setInt fits fresh.inside s.start
    refine concludes_emptyObject made placed₃ construct fun regs₁ unchanged built => ?_
    refine concludes_sequenceParts sound grammar matched placed₄ place writable built used
      ((unchanged start).trans kept) (fun _ _ holds => holds) ?_ ?_
    · intro regs₂ fields stop book built' holds
      -- A typed sequence has an object to return, and one without a type has none.
      cases obj with
      | none =>
        cases ty with
        | none =>
          exact concludes_succeed_void returned placed₅ (result.trans same.symm)
            (output.trans typed) holds
        | some ty => exact built'.elim
      | some obj =>
        cases ty with
        | none => exact built'.elim
        | some ty =>
          have boxed : Boxed s.program.output := by
            rw [output, typed]
            exact ⟨rfl, rfl⟩
          exact concludes_succeed_obj returned placed₅ (result.trans same.symm) built'.2.1 boxed
            built'.2.2 holds
    · intro regs₂ pos' book kept' holds
      refine failed _ _ _ ?_ holds
      rintro _ ⟨⟩
      exact ⟨fresh.inside, kept'⟩

end Packrat.Lowering
