import Packrat.Proofs.Cache.Publication

/-!
# Which requests succeed

A request succeeds if and only if every rule that can be reached from its rule is well formed on its
own, whatever was asked for before. So it is up to the grammar: a rule that failed had to, and a
rule that was done is done for all later requests.

* `WellFormed`: a rule is lowered with success if every request is answered.
* `Session.Accountable`: failures come from rules that are not well formed, and rules that are done
  have the matchers of the rules that they ask for.

Main statement: `RuleCache.get_ok_iff_wellFormed`.
-/

namespace Packrat

/-- A rule has a program once all its requests are answered. -/
def WellFormed [RegexEngine] (g : Grammar) (model : ObjectModel) (rule : RuleId) : Prop :=
  ∃ p, (lowerRule g model rule).result = .ok p

/-- With a resolver that answers everything, a rule makes all its requests and has its program if it
is well formed. -/
theorem resolve_answering (l : Lowered) (handleOf : RuleId → Handle) :
    l.resolve (fun _ => .ok ()) handleOf =
      (l.requests, l.result.map fun p => p.link fun id => some (handleOf id)) := by
  have answered (made requests : List RuleId) :
      answerRequests (fun _ => .ok ()) made requests = (made.reverse ++ requests, none) := by
    induction requests generalizing made with
    | nil => simp [answerRequests]
    | cons id rest ih => simp [answerRequests, ih]
  unfold Lowered.resolve
  rw [answered]
  rfl

variable {g : Grammar} {model : ObjectModel} {c : RuleCache} {s s' : Session} {rule : RuleId}
  {h : Handle}

/-! ## Failures and answers in a session -/

namespace Session

/-- A rule that failed is neither published nor done, and one that can be reached from it is the
cause. As long as no rule fails, rules that are published or done have the matchers of the rules
that they ask for. -/
structure Accountable [RegexEngine] (c : RuleCache) (s : Session) : Prop where
  unknown : ∀ (rule : RuleId) (e : CompileError), s.failed[rule]? = some e →
    c.ready[rule]? = none ∧ s.done[rule]? = none
  cause : ∀ (rule : RuleId) (e : CompileError), s.failed[rule]? = some e →
    ∃ other, Relation.ReflTransGen (Requests c.grammar c.model) rule other ∧
      (lowerRule c.grammar c.model other).result = .error e
  old : ∀ (rule : RuleId) (e : CompileError), c.failed[rule]? = some e →
    s.failed[rule]? = some e
  answered : s.failed = c.failed → ∀ (rule : RuleId) (h : Handle),
    c.ready[rule]? = some h ∨ s.done[rule]? = some h →
      ∀ child, Requests c.grammar c.model rule child → ∃ h', s.handleOf c child = some h'

/-- A change in which no rule fails keeps matchers. -/
theorem Moves.handleOf [RegexEngine] (moves : Moves c s s') (orderly : s.Orderly c)
    (unfailed : s'.failed = s.failed) (found : s.handleOf c rule = some h) :
    s'.handleOf c rule = some h := by
  rw [handleOf_iff (moves.orderly orderly)]
  rcases (handleOf_iff orderly).mp found with ready | done | progress
  · exact .inl ready
  · exact .inr (.inl (moves.done orderly done))
  · cases moves with
    | @begin other _ _ _ _ idle =>
      have differs : (rule == other) = false := by
        rw [beq_eq_false_iff_ne]
        rintro rfl
        rw [idle] at progress
        cases progress
      refine .inr (.inr ?_)
      rw [Session.begin, List.lookup_cons, differs]
      exact progress
    | @guard other =>
      obtain ⟨guards, nextBit, same⟩ := giveGuard_eq s other
      rw [same]
      exact .inr (.inr progress)
    | @finish other h' rest _ arena innermost =>
      rw [innermost, List.lookup_cons] at progress
      split at progress
      case h_1 same =>
        cases progress
        rw [eq_of_beq same]
        exact .inr (.inl Std.HashMap.getElem?_insert_self)
      case h_2 =>
        have tail : (s.finished arena other h').inProgress = rest := congrArg List.tail innermost
        rw [tail]
        exact .inr (.inr progress)
    | @fail other _ _ e innermost =>
      have idle := (orderly.idle _ (innermost ▸ List.mem_cons_self)).2.2
      rw [← unfailed, failing, Std.HashMap.getElem?_insert_self] at idle
      cases idle

/-- A change in which no rule fails keeps the session accountable. -/
theorem Accountable.of_unfailed [RegexEngine] (accountable : Accountable c s)
    (orderly : s.Orderly c) (moves : Moves c s s') (unfailed : s'.failed = s.failed) :
    Accountable c s' where
  unknown rule e failed := by
    rw [unfailed] at failed
    obtain ⟨ready, undone⟩ := accountable.unknown rule e failed
    refine ⟨ready, ?_⟩
    cases done : s'.done[rule]? with
    | none => rfl
    | some h =>
      rcases moves.done_cases orderly done with before | ⟨progress, _⟩
      · rw [undone] at before
        cases before
      · rw [(orderly.idle _ progress).2.2] at failed
        cases failed
  cause rule e failed := accountable.cause rule e (unfailed ▸ failed)
  old rule e failed := moves.failed orderly (accountable.old rule e failed)
  answered all rule h there child requests := by
    have all' : s.failed = c.failed := unfailed.symm.trans all
    have known : ∃ h', s.handleOf c child = some h' := by
      rcases there with ready | done
      · exact accountable.answered all' rule h (.inl ready) child requests
      · rcases moves.done_cases orderly done with before | ⟨_, _, now⟩
        · exact accountable.answered all' rule h (.inr before) child requests
        · exact now child requests
    obtain ⟨h', found⟩ := known
    exact ⟨h', moves.handleOf orderly unfailed found⟩

/-- A failure that has a cause keeps the session accountable. -/
theorem Accountable.of_failed [RegexEngine] (accountable : Accountable c s) (orderly : s.Orderly c)
    (moves : Moves c s s') {e : CompileError} (progress : (rule, h) ∈ s.inProgress)
    (done : s'.done = s.done) (blamed : Blamed c s rule e)
    (insert : s'.failed = s.failed.insert rule e) : Accountable c s' where
  unknown other e' failed := by
    obtain ⟨ready, undone, _⟩ := orderly.idle _ progress
    rw [insert, Std.HashMap.getElem?_insert] at failed
    rw [done]
    split at failed
    case isTrue same => exact eq_of_beq same ▸ ⟨ready, undone⟩
    case isFalse => exact accountable.unknown other e' failed
  cause other e' failed := by
    rw [insert, Std.HashMap.getElem?_insert] at failed
    split at failed
    case isTrue same =>
      cases failed
      obtain rfl := eq_of_beq same
      rcases blamed with own | ⟨child, requests, failed⟩
      · exact ⟨rule, .refl, own⟩
      · obtain ⟨other, reached, error⟩ := accountable.cause child e failed
        exact ⟨other, .head requests reached, error⟩
    case isFalse => exact accountable.cause other e' failed
  old other e' failed := moves.failed orderly (accountable.old other e' failed)
  answered all := by
    -- The new failure was not known before the session.
    have fresh := (orderly.idle _ progress).2.2
    have known : c.failed[rule]? = some e := by
      rw [← all, insert]
      exact Std.HashMap.getElem?_insert_self
    rw [accountable.old rule e known] at fresh
    cases fresh

/-- Every change keeps the session accountable. -/
theorem Accountable.step [RegexEngine] (orderly : s.Orderly c) (moves : Moves c s s')
    (accountable : Accountable c s) : Accountable c s' := by
  obtain unfailed | ⟨rule, h, e, progress, done, blamed, insert⟩ := moves.failed_cases
  · exact accountable.of_unfailed orderly moves unfailed
  · exact accountable.of_failed orderly moves progress done blamed insert

end Session

/-! ## Requests of a cache -/

namespace RuleCache

/-- At the start of a session the published rules have matchers, and no others. -/
theorem handleOf_session (c : RuleCache) (rule : RuleId) :
    c.session.handleOf c rule = c.ready[rule]? := by
  unfold Session.handleOf
  cases c.ready[rule]? <;> simp [session]

/-- Caches are accountable. -/
theorem History.accountable [RegexEngine] (history : c.History g model) :
    c.session.Accountable c := by
  refine history.keeps (P := Session.Accountable) ⟨?_, ?_, ?_, ?_⟩ Session.Accountable.step
    fun {c s succeeded} ended before accountable => ?_
  · simp [session, RuleCache.empty]
  · simp [session, RuleCache.empty]
  · simp [session, RuleCache.empty]
  · simp [session, RuleCache.empty]
  · have inside (rule : RuleId) (h : Handle)
        (there : (c.afterSession s succeeded).ready[rule]? = some h) :
        c.ready[rule]? = some h ∨ s.done[rule]? = some h := by
      cases succeeded with
      | true => exact (ready_afterSession ended.during).mp there
      | false => exact .inl there
    have failed : (c.afterSession s succeeded).session.failed = s.failed := by
      cases succeeded <;> rfl
    refine ⟨fun rule e found => ⟨?_, by simp [session]⟩, fun rule e found => ?_,
      fun _ _ found => found, fun _ rule h there child requests => ?_⟩
    · obtain ⟨unready, undone⟩ := accountable.unknown rule e (failed ▸ found)
      cases ready : (c.afterSession s succeeded).ready[rule]? with
      | none => rfl
      | some h =>
        rcases inside rule h ready with there | there
        · rw [unready] at there
          cases there
        · rw [undone] at there
          cases there
    · have cause := accountable.cause rule e (failed ▸ found)
      cases succeeded <;> exact cause
    · have ready : (c.afterSession s succeeded).ready[rule]? = some h := by
        simpa [session] using there
      rw [handleOf_session]
      cases succeeded with
      | false =>
        obtain ⟨h', found⟩ := before.answered rfl rule h (.inl ready) child requests
        exact ⟨h', (handleOf_session c child).symm.trans found⟩
      | true =>
        obtain ⟨h', found⟩ :=
          accountable.answered (ended.unfailed rfl) rule h (inside rule h ready) child requests
        refine ⟨h', (ready_afterSession ended.during).mpr ?_⟩
        rw [Session.handleOf_iff ended.during.orderly, ended.idle] at found
        simpa using found

/-- Everything that can be reached from a published rule is published. -/
theorem ready_of_reached [RegexEngine] (history : c.History g model)
    (ready : c.ready[rule]? = some h) {other : RuleId}
    (reached : Relation.ReflTransGen (Requests g model) rule other) :
    ∃ h', c.ready[other]? = some h' := by
  obtain ⟨_, rfl, rfl⟩ := history.sound
  induction reached with
  | refl => exact ⟨h, ready⟩
  | @tail other child _ requests ih =>
    obtain ⟨h', ready⟩ := ih
    obtain ⟨h'', found⟩ := history.accountable.answered rfl other h' (.inl ready) child requests
    exact ⟨h'', (handleOf_session c child).symm.trans found⟩

/-- Everything that can be reached from a published rule is well formed. -/
theorem wellFormed_of_reached [RegexEngine] (history : c.History g model)
    (ready : c.ready[rule]? = some h) {other : RuleId}
    (reached : Relation.ReflTransGen (Requests g model) rule other) :
    WellFormed g model other := by
  obtain ⟨h', ready'⟩ := ready_of_reached history ready reached
  obtain ⟨sound, rfl, rfl⟩ := history.sound
  obtain ⟨d, p, published⟩ := sound.entries other h' ready'
  obtain ⟨raw, lowered, _⟩ := published.linked
  exact ⟨raw, lowered⟩

/-- A rule that failed is known to have failed. -/
theorem failed_of_get [RegexEngine] {e : CompileError} (failed : (c.get rule).1 = .error e) :
    (c.get rule).2.failed[rule]? = some e := by
  have ends := c.get_got rule
  generalize c.get rule = result at ends failed ⊢
  cases ends with
  | published => cases failed
  | done => cases failed
  | failed _ known =>
    cases failed
    exact known
  | refused _ _ _ known =>
    cases failed
    exact known

/-- A rule that is known to have failed fails again. -/
theorem get_of_failed [RegexEngine] {e : CompileError} (history : c.History g model)
    (failed : c.failed[rule]? = some e) : (c.get rule).1 = .error e := by
  rw [get, (history.accountable.unknown rule e failed).1, failed]

/-- Failures stay known in a request. -/
theorem get_keeps_failed [RegexEngine] {e : CompileError} (other : RuleId)
    (failed : c.failed[rule]? = some e) : (c.get other).2.failed[rule]? = some e := by
  obtain same | ⟨s, succeeded, ended, same⟩ := c.get_after other
  · rw [same]
    exact failed
  · have kept : s.failed[rule]? = some e :=
      (Session.Moves.keeps (P := fun s => s.failed[rule]? = some e)
        (fun orderly move failed => move.failed orderly failed) ended.during
        (Session.orderly_session c) failed).2
    rw [same]
    cases succeeded <;> exact kept

/-- Which requests succeed is up to the grammar: whatever was asked for before, a request for a rule
succeeds if and only if every rule that can be reached from it is well formed; if it fails, it is
with the error of a rule that can be reached; and whatever is asked for afterwards, another request
for the rule ends in the same way. -/
theorem get_ok_iff_wellFormed [RegexEngine] (history : c.History g model) (rule : RuleId) :
    ((∃ h, (c.get rule).1 = .ok h) ↔
      ∀ other, Relation.ReflTransGen (Requests g model) rule other → WellFormed g model other) ∧
    (∀ e, (c.get rule).1 = .error e →
      ∃ other, Relation.ReflTransGen (Requests g model) rule other ∧
        (lowerRule g model other).result = .error e) ∧
    (∀ rules, (((c.get rule).2.getAll rules).get rule).1 = (c.get rule).1) := by
  have cause (e : CompileError) (failed : (c.get rule).1 = .error e) :
      ∃ other, Relation.ReflTransGen (Requests g model) rule other ∧
        (lowerRule g model other).result = .error e := by
    have accountable := (history.get rule).accountable
    obtain ⟨_, grammar, model⟩ := (history.get rule).sound
    have cause := accountable.cause rule e (failed_of_get failed)
    rwa [grammar, model] at cause
  refine ⟨⟨?_, fun wellFormed => ?_⟩, cause, fun rules => ?_⟩
  · rintro ⟨h, obtained⟩ other reached
    exact wellFormed_of_reached (history.get rule) (ready_of_get history.sound.1 obtained) reached
  · cases result : (c.get rule).1 with
    | ok h => exact ⟨h, rfl⟩
    | error e =>
      obtain ⟨other, reached, error⟩ := cause e result
      obtain ⟨p, lowered⟩ := wellFormed other reached
      rw [error] at lowered
      cases lowered
  · cases result : (c.get rule).1 with
    | ok h =>
      have ready := getAll_keeps (P := fun c => c.ready[rule]? = some h)
        (fun other history ready => (get_keeps_ready other history ready).1) rules
        (history.get rule) (ready_of_get history.sound.1 result)
      rw [get_of_ready ready]
    | error e =>
      have failed := getAll_keeps (P := fun c => c.failed[rule]? = some e)
        (fun other _ failed => get_keeps_failed other failed) rules
        (history.get rule) (failed_of_get result)
      exact get_of_failed ((history.get rule).getAll rules) failed

/-- Three rules: the first one asks for both others, the second one for the first, and the third one
has a regular expression. -/
def faultyGrammar : Grammar :=
  ⟨#[⟨some "whole", .surround ⟨1⟩ ⟨2⟩ none, false⟩, ⟨some "outside", .not ⟨0⟩, false⟩,
    ⟨some "pattern", .regex "b", false⟩], #[.text, .void, .text]⟩

/-- The cache before these rules are asked for. -/
def faultyCache : RuleCache := .empty faultyGrammar RecordModel.empty.toObjectModel

section

attribute [local instance] letterEngine

/-- The request for the first one of these rules ends with the error of the third one. -/
theorem faulty_get : (faultyCache.get ⟨0⟩).1 =
    .error (.grammar (.invalidRegex "pattern" "not the letter a")) := by cbv

/-- The first one of these rules fails because of the third one, whose regular expression the engine
does not know, and keeps failing; the second one, which was well formed, fails after it. Of rules
that ask for each other and a regular expression that the engine knows, everything that can be
reached is well formed. -/
theorem get_ok_iff_wellFormed_faulty :
    (∃ other, Relation.ReflTransGen
        (Requests faultyGrammar RecordModel.empty.toObjectModel) ⟨0⟩ other ∧
      (lowerRule faultyGrammar RecordModel.empty.toObjectModel other).result =
        .error (.grammar (.invalidRegex "pattern" "not the letter a"))) ∧
    (((faultyCache.get ⟨0⟩).2.getAll [⟨1⟩, ⟨2⟩]).get ⟨0⟩).1 =
      .error (.grammar (.invalidRegex "pattern" "not the letter a")) ∧
    (WellFormed faultyGrammar RecordModel.empty.toObjectModel ⟨1⟩ ∧
      ¬ ∃ h, ((faultyCache.get ⟨0⟩).2.get ⟨1⟩).1 = .ok h) ∧
    (∀ other, Relation.ReflTransGen
        (Requests nestedGrammar RecordModel.empty.toObjectModel) ⟨1⟩ other →
      WellFormed nestedGrammar RecordModel.empty.toObjectModel other) := by
  have start : faultyCache.History faultyGrammar RecordModel.empty.toObjectModel := .empty
  obtain ⟨_, cause, again⟩ := get_ok_iff_wellFormed start ⟨0⟩
  obtain ⟨later, _, _⟩ := get_ok_iff_wellFormed (start.get ⟨0⟩) ⟨1⟩
  obtain ⟨all, _, _⟩ := get_ok_iff_wellFormed
    (History.empty : nestedCache.History nestedGrammar RecordModel.empty.toObjectModel) ⟨1⟩
  have first : (lowerRule faultyGrammar RecordModel.empty.toObjectModel ⟨0⟩).requests =
      [⟨1⟩, ⟨2⟩, ⟨1⟩] := by cbv
  have second : (lowerRule faultyGrammar RecordModel.empty.toObjectModel ⟨1⟩).requests =
      [⟨0⟩] := by cbv
  have third : (lowerRule faultyGrammar RecordModel.empty.toObjectModel ⟨2⟩).result =
      .error (.grammar (.invalidRegex "pattern" "not the letter a")) := by cbv
  refine ⟨cause _ faulty_get, (again _).trans faulty_get, ⟨⟨_, by cbv⟩, fun succeeds => ?_⟩,
    all.mp ⟨_, nested_get.1⟩⟩
  have back : Requests faultyGrammar RecordModel.empty.toObjectModel ⟨1⟩ ⟨0⟩ := by
    simp [Requests, second]
  have on : Requests faultyGrammar RecordModel.empty.toObjectModel ⟨0⟩ ⟨2⟩ := by
    simp [Requests, first]
  obtain ⟨p, lowered⟩ := later.mp succeeds ⟨2⟩ (.head back (.single on))
  rw [third] at lowered
  cases lowered

end

end RuleCache

end Packrat
