import Packrat.Proofs.Cache.Session

/-!
# What is published

Published matchers belong to their rules, have the programs of these, and call each other by the
matchers that are published. What is published once stays, and a request that fails publishes
nothing.

* `Session.Owned`: matchers belong to their rules and have programs.
* `RuleCache.Filled`: a matcher has the program of a rule, linked with published matchers.

Main statement: `RuleCache.published_closed`.
-/

namespace Packrat

variable {g : Grammar} {model : ObjectModel} {c : RuleCache} {s s' : Session} {rule : RuleId}
  {h : Handle}

/-! ## Matchers in a session -/

/-- Matchers of rules that are published or done belong to these rules and have programs. -/
def Session.Owned (c : RuleCache) (s : Session) : Prop :=
  ∀ (rule : RuleId) (h : Handle), c.ready[rule]? = some h ∨ s.done[rule]? = some h →
    ∃ p, s.arena.get? h = some ⟨rule, c.grammar.displayName rule, some p⟩

/-- Every change of a session keeps matchers with their rules. -/
theorem Session.Owned.step [RegexEngine] (orderly : s.Orderly c) (moves : Moves c s s')
    (owned : Owned c s) : Owned c s' := by
  intro rule h there
  have old (there : c.ready[rule]? = some h ∨ s.done[rule]? = some h) :
      ∃ p, s'.arena.get? h = some ⟨rule, c.grammar.displayName rule, some p⟩ := by
    obtain ⟨p, found⟩ := owned rule h there
    exact ⟨p, moves.filled found nofun⟩
  rcases there with ready | done
  · exact old (.inl ready)
  · rcases moves.done_cases orderly done with before | ⟨_, filled, _⟩
    · exact old (.inr before)
    · exact filled

namespace RuleCache

/-- Published matchers belong to their rules and have programs. -/
theorem History.owned [RegexEngine] (history : c.History g model) : c.session.Owned c := by
  refine history.keeps (P := Session.Owned) (fun rule h there => ?_) Session.Owned.step
    fun {c s succeeded} ended before owned => ?_
  · simp [session, RuleCache.empty] at there
  · intro rule h there
    have ready : (c.afterSession s succeeded).ready[rule]? = some h := by
      simpa [session] using there
    cases succeeded with
    | true => exact owned rule h ((ready_afterSession ended.during).mp ready)
    | false => exact before rule h (.inl ready)

/-! ## Published matchers -/

/-- A matcher belongs to a rule and has the program of the rule: the lowered one, with the guard of
the rule, in which each callee stands for the matcher that is published for it. -/
structure Filled [RegexEngine] (c : RuleCache) (rule : RuleId) (m : Matcher) (p : Program) :
    Prop where
  belongs : m.rule = rule
  program : m.program? = some p
  own : p.rule = rule
  lowered : ∃ raw, (lowerRule c.grammar c.model rule).result = .ok raw ∧
    p = { raw.link (fun child => c.ready[child]?) with recursion := c.guard rule }
  callees : ∀ (i : Nat) (callee : Callee), p.callees[i]? = some callee →
    ∃ h, c.ready[callee.rule]? = some h ∧ p.callee ⟨i⟩ = .ok h

/-- The callees of a linked program stand for the matchers that it was linked with. -/
theorem callee_of_linked [RegexEngine] {handleOf : RuleId → Option Handle} {p : Program}
    (linked : Linked g model handleOf rule p) {i : Nat} {callee : Callee}
    (there : p.callees[i]? = some callee) :
    ∃ h, handleOf callee.rule = some h ∧ p.callee ⟨i⟩ = .ok h := by
  obtain ⟨raw, _, same, answered⟩ := linked
  have tables : p.callees = raw.callees.map fun callee => ⟨callee.rule, handleOf callee.rule⟩ :=
    congrArg Program.callees same
  have entry := there
  rw [tables, Array.getElem?_map, Option.map_eq_some_iff] at entry
  obtain ⟨source, member, rfl⟩ := entry
  obtain ⟨h, found⟩ := answered source (Array.mem_of_getElem? member)
  refine ⟨h, found, ?_⟩
  simp only [Program.callee, there, Option.bind_some, found]

/-- Published matchers are filled. -/
theorem History.filled [RegexEngine] (history : c.History g model)
    (ready : c.ready[rule]? = some h) : ∃ m p, c.arena.get? h = some m ∧ c.Filled rule m p := by
  obtain ⟨d, p, published⟩ := history.sound.1.entries rule h ready
  obtain ⟨p', found⟩ := history.owned rule h (.inl ready)
  have program : p' = p := by
    have program := published.program
    rw [show c.arena.get? h = _ from found] at program
    exact Option.some.inj program
  subst program
  obtain ⟨raw, lowered, same, _⟩ := published.linked
  refine ⟨_, p', found, rfl, rfl, published.compiled.rule, ⟨raw, lowered, ?_⟩,
    fun i callee there => callee_of_linked published.linked there⟩
  rw [published.recursion] at same
  exact same

/-- A published rule keeps its matcher in a request, and the matcher its program. -/
theorem get_keeps_ready [RegexEngine] (other : RuleId) (history : c.History g model)
    (ready : c.ready[rule]? = some h) : (c.get other).2.ready[rule]? = some h ∧
      (c.get other).2.arena.get? h = c.arena.get? h := by
  obtain same | ⟨s, succeeded, ended, same⟩ := c.get_after other
  · rw [same]
    exact ⟨ready, rfl⟩
  · rw [same]
    cases succeeded with
    | false => exact ⟨ready, rfl⟩
    | true =>
      obtain ⟨m, p, there, filled⟩ := history.filled ready
      have full : m.program? ≠ none := by
        rw [filled.program]
        exact nofun
      refine ⟨(ready_afterSession ended.during).mpr (.inl ready), ?_⟩
      exact (Session.Moves.keeps (P := fun s => s.arena.get? h = some m)
        (fun _ move there => move.filled there full) ended.during (Session.orderly_session c)
        there).2.trans there.symm

/-- What is published: after any requests, the matchers published are those of their rules, filled
with the programs of these, and every callee of such a program stands for the matcher that is
published for it. A request that fails publishes nothing, and no later requests replace a matcher or
its program. -/
theorem published_closed [RegexEngine] (history : c.History g model) :
    (∀ (rule : RuleId) (h : Handle), c.ready[rule]? = some h →
      ∃ m p, c.arena.get? h = some m ∧ c.Filled rule m p) ∧
    (∀ (rule : RuleId) (e : CompileError), (c.get rule).1 = .error e →
      (c.get rule).2.ready = c.ready ∧ (c.get rule).2.arena = c.arena) ∧
    (∀ (rules : List RuleId) (rule : RuleId) (h : Handle), c.ready[rule]? = some h →
      (c.getAll rules).ready[rule]? = some h ∧
        (c.getAll rules).arena.get? h = c.arena.get? h) := by
  refine ⟨fun rule h ready => history.filled ready, fun rule e failed => ?_,
    fun rules rule h ready => ?_⟩
  · have ends := c.get_got rule
    generalize c.get rule = result at ends failed ⊢
    cases ends with
    | published => cases failed
    | done => cases failed
    | failed => exact ⟨rfl, rfl⟩
    | refused => exact ⟨rfl, rfl⟩
  · refine getAll_keeps (P := fun c' => c'.ready[rule]? = some h ∧
      c'.arena.get? h = c.arena.get? h) (fun other history' kept => ?_) rules history ⟨ready, rfl⟩
    obtain ⟨ready', same⟩ := get_keeps_ready other history' kept.1
    exact ⟨ready', same.trans kept.2⟩

/-- A rule that the grammar does not have. -/
theorem contrary_get_unknown [RegexEngine] : (contraryCache.get ⟨2⟩).1 =
    .error (.grammar (.unknownRule "unknown#2" ⟨2⟩)) := by cbv

section

attribute [local instance] letterEngine

/-- Two rules that ask for each other: the one rule is published once it was asked for, a request
for a rule that there is not publishes nothing, and neither this nor a request for the other rule
replaces the matcher of the one rule. -/
theorem published_closed_contrary :
    (∃ m p, (contraryCache.get ⟨0⟩).2.arena.get? ⟨0⟩ = some m ∧
      (contraryCache.get ⟨0⟩).2.Filled ⟨0⟩ m p) ∧
    ((contraryCache.get ⟨2⟩).2.ready = contraryCache.ready ∧
      (contraryCache.get ⟨2⟩).2.arena = contraryCache.arena) ∧
    ((contraryCache.get ⟨0⟩).2.getAll [⟨2⟩, ⟨1⟩]).ready[(⟨0⟩ : RuleId)]? = some ⟨0⟩ ∧
      ((contraryCache.get ⟨0⟩).2.getAll [⟨2⟩, ⟨1⟩]).arena.get? ⟨0⟩ =
        (contraryCache.get ⟨0⟩).2.arena.get? ⟨0⟩ := by
  obtain ⟨filled, _, kept⟩ := published_closed (contrary_history ⟨0⟩)
  obtain ⟨_, failed, _⟩ := published_closed
    (History.empty : contraryCache.History contraryGrammar RecordModel.empty.toObjectModel)
  exact ⟨filled ⟨0⟩ ⟨0⟩ contrary_ready, failed ⟨2⟩ _ contrary_get_unknown,
    kept [⟨2⟩, ⟨1⟩] ⟨0⟩ ⟨0⟩ contrary_ready⟩

end

end RuleCache

end Packrat
