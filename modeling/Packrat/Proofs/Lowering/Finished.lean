import Packrat.Proofs.Lowering.Rule

/-!
# Finished programs

The program of a rule is the finished code of its body, with matchers for its callees and a guard.
Every callee was asked for, so it has a matcher if every request is answered with one.

* `Asked`: the callees so far were asked for.
* `Finishes`: a construction has all that a finished program needs.
* `Compiled`: a program is that of a rule.
* `Assembled`: a program is the finished code of the body of a rule.

Main statements: `compiled_of_lowerRule` and `Compiled.concludes`.
-/

namespace Packrat

open Assemble Machine

namespace Lowering

/-! ## Requests -/

/-- Both stages have the same callees. -/
def SameCallees (a b : Assembler) : Prop := b.callees = a.callees

/-- Numbering an entry adds no callees. -/
theorem sameCallees_number (a : Assembler) (i : Nat) (table : String) :
    SameCallees a (a.number i table).2 := by
  unfold Assembler.number
  split <;> rfl

/-- Only calls add callees. -/
@[reducible] def sameCallees : StageRelation where
  Rel := SameCallees
  refl _ := rfl
  trans _ _ _ first second := Eq.trans second first
  intSlot a := sameCallees_number a a.intSlots "int slot"
  objSlot a := sameCallees_number a a.objSlots "object slot"
  newLabel _ := rfl
  mark label a := by
    rw [mark_eq]
    dsimp only
    split <;> rfl
  valueConst v a := by
    simp only [valueConst, modifyGet, MonadStateOf.modifyGet, StateT.modifyGet]
    split
    · exact sameCallees_number a _ _
    · exact sameCallees_number a a.consts.size "constant"
  regexConst r a := sameCallees_number a a.consts.size "constant"
  emit _ _ := rfl

/-- The callees so far were asked for. -/
def Asked (x : Stage) : Prop :=
  ∀ c ∈ x.2.callees, c.rule ∈ x.1

/-- Callees that were asked for stay so. -/
def KeepsAsked (x y : Stage) : Prop :=
  Asked x → Asked y

/-- Actions of the assembler add no callees that would have to be asked for. -/
@[reducible] def keepsAsked : LoweringRelation where
  Rel := KeepsAsked
  assembled := sameCallees
  refl _ := id
  trans _ _ _ first second := second ∘ first
  lift requests a b same asked := by
    intro c member
    exact asked c (same ▸ member)

/-- A call adds its callee at most. -/
theorem mem_callees_callRule {child : RuleId} {name : Option String} {dst : Option Slot}
    {onFail : Label} {a : Assembler} {c : Callee}
    (member : c ∈ (callRule child name dst onFail a).2.callees) :
    c ∈ a.callees ∨ c.rule = child := by
  have callees : (callRule child name dst onFail a).2.callees = (callee child none a).2.callees :=
    rfl
  rw [callees] at member
  simp only [callee, modifyGet, MonadStateOf.modifyGet, StateT.modifyGet] at member
  split at member
  · exact .inl member
  · have same := sameCallees_number a a.callees.size "callee"
    generalize a.number a.callees.size "callee" = numbered at member same
    obtain ⟨i, a'⟩ := numbered
    rcases Array.mem_push.mp member with member | rfl
    · exact .inl (same ▸ member)
    · exact .inr rfl

/-- A callee that is asked for is called. -/
theorem asked_callRule {requests : Array RuleId} {child : RuleId} {name : Option String}
    {dst : Option Slot} {onFail : Label} {a : Assembler} (asked : Asked (requests, a))
    (present : child ∈ requests) :
    Asked (requests, (callRule child name dst onFail a).2) := by
  intro c member
  rcases mem_callees_callRule member with member | rfl
  · exact asked c member
  · exact present

/-- The action keeps callees asked for if a child is. -/
def KeepsWith (child : RuleId) {α : Type} (m : Lower α) : Prop :=
  ∀ (requests : Array RuleId) (a : Assembler), child ∈ requests →
    KeepsAsked (requests, a) ((m.run.run requests a).1.2, (m.run.run requests a).2)

section

variable {α β : Type} {child : RuleId} {name : Option String} {dst : Option Slot} {onFail : Label}

/-- A call keeps callees asked for if its child is. -/
theorem keepsWith_callRule : KeepsWith child
    (liftM (callRule child name dst onFail) : Lower Unit) :=
  fun _ _ present asked => asked_callRule asked present

/-- Behind the call of a child the child need not be asked for any more. -/
theorem keepsWith_call {f : Unit → Lower α} [∀ x, LowerLeads keepsAsked x (f x)] :
    KeepsWith child (liftM (callRule child name dst onFail) >>= f) := by
  intro requests a present asked
  have rest := LowerLeads.leads (S := keepsAsked) () (m := f ()) requests
    (callRule child name dst onFail a).2
  exact rest (asked_callRule asked present)

/-- In front of the call of a child there may be other actions of the assembler. -/
theorem keepsWith_step {m : Assemble α} [Leads sameCallees () m] {f : α → Lower β}
    (keeps : ∀ x, KeepsWith child (f x)) : KeepsWith child (liftM m >>= f) := by
  intro requests a present asked
  refine keeps (m a).1 requests (m a).2 present fun c member => ?_
  exact asked c ((Leads.leads (R := sameCallees) () (m := m) a) ▸ member)

/-- A request followed by an action that keeps callees asked for if the child is. -/
theorem leads_request {γ : Type} {seen : γ} {m : Lower α} (keeps : KeepsWith child m) :
    LowerLeads keepsAsked seen (request child >>= fun _ => m) where
  leads requests a asked := by
    rw [run_bind]
    refine keeps (requests.push child) a Array.mem_push_self fun c member => ?_
    exact Array.mem_push.mpr (.inl (asked c member))

instance {γ : Type} {seen : γ} : LowerLeads keepsAsked seen (callVoid child name onFail) :=
  leads_request keepsWith_callRule

end

/-- Calls come with their requests. -/
instance : CallingRelation keepsAsked where
  callVoid _ _ _ := inferInstance
  callNatural _ _ _ _ := leads_request (keepsWith_step fun _ => keepsWith_call)
  callInto cx child dst _ := by
    unfold callInto
    rcases dst with _ | _ | _ <;> dsimp only
    · infer_instance
    · split
      · exact leads_request keepsWith_callRule
      · infer_instance
    · split
      · infer_instance
      · split
        · exact leads_request (keepsWith_step fun _ => keepsWith_call)
        · exact leads_request keepsWith_callRule

/-! ## Finished programs -/

/-- The program is that of a rule, with matchers for its callees. -/
structure Compiled [RegexEngine] (g : Grammar) (model : ObjectModel) (id : RuleId) (d : RuleDef)
    (p : Program) : Prop where
  found : g.get? id = some d
  name : p.name = g.displayName id
  rule : p.rule = id
  output : p.output = g.outputOf id
  concrete : p.concrete = d.rule.isConcrete
  code : ∃ slot b, Emits (body ⟨g, model, g.displayName id, g.outputOf id⟩ d.rule)
    (.start id (g.displayName id)) slot b ∧ Placed p b ∧ p.result = slot

/-- The lowering of a rule that there is: its body, finished if it is not refused. -/
theorem lowerRule_of_found [RegexEngine] {g : Grammar} {model : ObjectModel} {id : RuleId}
    {d : RuleDef} (found : g.get? id = some d) : lowerRule g model id =
      match (body ⟨g, model, g.displayName id, g.outputOf id⟩ d.rule).run.run #[]
        (.start id (g.displayName id)) with
      | ((.error e, requests), _) => ⟨requests.toList, .error e⟩
      | ((.ok slot, requests), a) =>
        match a.finish (g.outputOf id) slot d.rule.isConcrete (!d.ignored) with
        | .error fault => ⟨requests.toList, .error (.fault fault)⟩
        | .ok p => ⟨requests.toList, .ok p⟩ := by
  unfold lowerRule
  rw [found]
  dsimp only [StateT.run]
  generalize (body ⟨g, model, g.displayName id, g.outputOf id⟩ d.rule).run #[]
    (.start id (g.displayName id)) = result
  obtain ⟨⟨_ | slot, requests⟩, a⟩ := result <;> rfl

section

/-- A construction can be finished: it has no fault, its registers can be counted by a number, its
labels are in order, and its parts are those of the program. -/
structure Finishes (a : Assembler) (output : OutputType) (result : Option Slot)
    (concrete traced : Bool) (p : Program) : Prop where
  sound : a.fault = none
  ints : a.intSlots ≤ Assembler.maxIndex
  objs : a.objSlots ≤ Assembler.maxIndex
  labels : a.checkLabels a.usedLabels 0 a.labels.toList = .ok ()
  program : p = ⟨a.name, a.rule, a.code, a.labels, a.intSlots, a.objSlots, a.consts, a.callees,
    output, result, concrete, traced, .none⟩

variable {a : Assembler} {output : OutputType} {result : Option Slot} {concrete traced : Bool}
  {p : Program}

/-- A construction that is finished could be. -/
theorem finishes_of_finish (finished : a.finish output result concrete traced = .ok p) :
    Finishes a output result concrete traced p := by
  unfold Assembler.finish at finished
  split at finished
  case h_1 => cases finished
  case h_2 sound =>
    split at finished
    case isTrue => cases finished
    case isFalse ints =>
      split at finished
      case isTrue => cases finished
      case isFalse objs =>
        split at finished
        case h_1 => cases finished
        case h_2 labels =>
          cases finished
          exact ⟨sound, Nat.not_lt.mp ints, Nat.not_lt.mp objs, labels, rfl⟩

/-- The finished program of a construction. -/
theorem finish_eq (finished : a.finish output result concrete traced = .ok p) :
    a.fault = none ∧ p = ⟨a.name, a.rule, a.code, a.labels, a.intSlots, a.objSlots, a.consts,
      a.callees, output, result, concrete, traced, .none⟩ :=
  ⟨(finishes_of_finish finished).sound, (finishes_of_finish finished).program⟩

end

/-- The program is the code of the body of a rule, finished where the body ends. -/
structure Assembled [RegexEngine] (g : Grammar) (model : ObjectModel) (id : RuleId) (d : RuleDef)
    (slot : Option Slot) (b : Assembler) (p : Program) : Prop where
  found : g.get? id = some d
  emits : Emits (body ⟨g, model, g.displayName id, g.outputOf id⟩ d.rule)
    (.start id (g.displayName id)) slot b
  finished : b.finish (g.outputOf id) slot d.rule.isConcrete (!d.ignored) = .ok p
  asked : ∀ c ∈ b.callees, c.rule ∈ (lowerRule g model id).requests

/-- A program comes of the body of a rule, finished where the body ends. -/
theorem assembled_of_lowerRule [RegexEngine] {g : Grammar} {model : ObjectModel} {id : RuleId}
    {p : Program} (lowered : (lowerRule g model id).result = .ok p) :
    ∃ d slot b, Assembled g model id d slot b p := by
  cases found : g.get? id with
  | none =>
    unfold lowerRule at lowered
    rw [found] at lowered
    cases lowered
  | some d =>
    have asks := LowerLeads.leads (S := keepsAsked) ()
      (m := body ⟨g, model, g.displayName id, g.outputOf id⟩ d.rule) #[]
      (.start id (g.displayName id)) (by simp [Asked, Assembler.start])
    have same := @lowerRule_of_found _ g model id d found
    generalize ran : (body ⟨g, model, g.displayName id, g.outputOf id⟩ d.rule).run.run #[]
      (.start id (g.displayName id)) = result at same asks
    obtain ⟨⟨_ | slot, requests⟩, b⟩ := result
    · rw [same] at lowered
      cases lowered
    · dsimp only at same asks
      cases finished : b.finish (g.outputOf id) slot d.rule.isConcrete (!d.ignored) with
      | error fault =>
        rw [same, finished] at lowered
        cases lowered
      | ok p' =>
        rw [finished] at same
        rw [same] at lowered
        cases lowered
        refine ⟨d, slot, b, found, ⟨#[], requests, ran⟩, finished, fun c member => ?_⟩
        rw [same]
        exact Array.mem_toList_iff.mpr (asks c member)

/-- Where the body ends is a stage of the program once its callees have matchers. -/
theorem Assembled.placed [RegexEngine] {g : Grammar} {model : ObjectModel} {id : RuleId}
    {d : RuleDef} {slot : Option Slot} {b : Assembler} {p : Program}
    (assembled : Assembled g model id d slot b p)
    (handleOf : RuleId → Option Handle) (guard : RecursionCheck)
    (answered : ∀ c ∈ p.callees, ∃ h, handleOf c.rule = some h) :
    Placed { p.link handleOf with recursion := guard } b := by
  obtain ⟨sound, rfl⟩ := finish_eq assembled.finished
  refine ⟨rfl, fun _ _ there => there, fun _ _ there => there, Nat.le_refl _, Nat.le_refl _,
    fun _ _ there => there, fun rule i known => ?_, sound⟩
  have keyed : b.Keyed := assembled.emits.extends'.keyed sound (by
    intro rule i known
    simp [Assembler.start] at known)
  obtain ⟨c, there, rfl⟩ := keyed rule i known
  obtain ⟨h, answer⟩ := answered c (Array.mem_of_getElem? there)
  refine ⟨h, ?_⟩
  rw [Program.link, Array.getElem?_map, there, Option.map_some, answer]

/-- The callees of a finished program were asked for, and with an answer for every request it is
the program of the rule. -/
theorem compiled_of_lowerRule [RegexEngine] {g : Grammar} {model : ObjectModel} {id : RuleId}
    {p : Program} (lowered : (lowerRule g model id).result = .ok p) :
    (∀ c ∈ p.callees, c.rule ∈ (lowerRule g model id).requests) ∧
      ∀ (handleOf : RuleId → Option Handle) (guard : RecursionCheck),
        (∀ child ∈ (lowerRule g model id).requests, ∃ h, handleOf child = some h) →
        ∃ d, Compiled g model id d { p.link handleOf with recursion := guard } := by
  obtain ⟨d, slot, b, assembled⟩ := assembled_of_lowerRule lowered
  have grown := assembled.emits.extends'
  have placed := assembled.placed
  obtain ⟨_, rfl⟩ := finish_eq assembled.finished
  refine ⟨assembled.asked, fun handleOf guard answered => ⟨d, assembled.found, grown.name,
    grown.rule, rfl, rfl, slot, b, assembled.emits, placed handleOf guard ?_, rfl⟩⟩
  exact fun c member => answered c.rule (assembled.asked c member)

/-- A callee with a matcher has the one it was linked with. -/
theorem callee_of_link {p : Program} {handleOf : RuleId → Option Handle} {i : Nat} {rule : RuleId}
    {h : Handle} (there : (p.link handleOf).callees[i]? = some ⟨rule, some h⟩) :
    (∃ c ∈ p.callees, c.rule = rule) ∧ handleOf rule = some h := by
  rw [Program.link, Array.getElem?_map, Option.map_eq_some_iff] at there
  obtain ⟨c, there, same⟩ := there
  obtain ⟨rfl, answer⟩ := Callee.mk.inj same
  exact ⟨⟨c, Array.mem_of_getElem? there, rfl⟩, answer⟩

/-- A run of the program of a rule comes out in one of the ways in which the rule may. -/
theorem Compiled.concludes [RegexEngine] {g : Grammar} (inferred : g.Inferred) {model : ObjectModel}
    (record : RecordLike model) {id : RuleId} {d : RuleDef} {s : Scene}
    (compiled : Compiled g model id d s.program) (sound : s.Sound) (grammar : s.grammar = g)
    (sameModel : s.env.model = model) (book : Book) (regs : Registers) :
    s.Concludes (.of (Meaning.rule s.child s.env ⟨g, model, g.displayName id, g.outputOf id⟩
      s.start d.rule) book) 0 regs s.start := by
  obtain ⟨slot, b, emits, placed, result⟩ := compiled.code
  exact rule_concludes sound grammar sameModel record compiled.name
    (wellTyped_of_inferred inferred compiled.found model _) emits placed result compiled.output

end Lowering

end Packrat
