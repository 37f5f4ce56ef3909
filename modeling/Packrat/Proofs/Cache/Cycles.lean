import Packrat.Proofs.Cache.Session

/-!
# Guards and cycles

Rules that are guarded are those that a session met again while they were in progress. Such a rule
lies on a cycle of requests, and every cycle of calls of published programs has one. Guards are bits
of the mask as long as there are any, and stay once given.

* `Session.Guarded`: guarded rules lie on cycles, and walks come after all bits.
* `RuleCache.CallsRule`: the published program of a rule calls another rule.

Main statement: `RuleCache.guards_exact`.
-/

namespace Packrat

variable {g : Grammar} {model : ObjectModel} {c : RuleCache} {s s' : Session} {rule : RuleId}

/-! ## Guards in a session -/

namespace Session

/-- Guarded rules lie on cycles of requests, all bits below the next one are given, and if there is
a walk no bits are left. -/
structure Guarded [RegexEngine] (c : RuleCache) (s : Session) : Prop where
  cycle : ∀ rule : RuleId, s.guards.contains rule = true →
    Relation.TransGen (Requests c.grammar c.model) rule rule
  given : ∀ k < s.nextBit, ∃ rule : RuleId, s.guards[rule]? = some (.bit k)
  walk : ∀ rule : RuleId, s.guards[rule]? = some .walk → 64 ≤ s.nextBit

/-- What a change does to the guards: nothing, or it gives one to a rule that lies on a cycle. -/
theorem Moves.guards_cases [RegexEngine] (orderly : s.Orderly c) (moves : Moves c s s') :
    s'.guards = s.guards ∧ s'.nextBit = s.nextBit ∨
      ∃ rule, Relation.TransGen (Requests c.grammar c.model) rule rule ∧
        s' = s.giveGuard rule := by
  cases moves with
  | begin => exact .inl ⟨rfl, rfl⟩
  | guard asked progress => exact .inr ⟨_, orderly.asks asked _ (mem_of_lookup progress), rfl⟩
  | finish => exact .inl ⟨rfl, rfl⟩
  | fail => exact .inl ⟨rfl, rfl⟩

/-- Guards that were given stay. -/
theorem giveGuard_keeps {guard : RecursionCheck} (other : RuleId)
    (given : s.guards[rule]? = some guard) :
    (s.giveGuard other).guards[rule]? = some guard := by
  have differs (new : s.guards.contains other = false) : (other == rule) = false := by
    rw [beq_eq_false_iff_ne]
    rintro rfl
    simp [Std.HashMap.contains_eq_isSome_getElem?, given] at new
  obtain ⟨_, same⟩ | ⟨new, _, same⟩ | ⟨new, _, same⟩ := s.giveGuard_cases other
  · simpa [same] using given
  · simpa [same, Std.HashMap.getElem?_insert, differs new] using given
  · simpa [same, Std.HashMap.getElem?_insert, differs new] using given

/-- A guard that was given stays. -/
theorem Moves.guards [RegexEngine] {guard : RecursionCheck} (orderly : s.Orderly c)
    (moves : Moves c s s') (given : s.guards[rule]? = some guard) :
    s'.guards[rule]? = some guard := by
  obtain ⟨same, _⟩ | ⟨other, _, rfl⟩ := moves.guards_cases orderly
  · rw [same]
    exact given
  · exact giveGuard_keeps other given

/-- Every change keeps guards on cycles, and bits before walks. -/
theorem Guarded.step [RegexEngine] (orderly : s.Orderly c) (moves : Moves c s s')
    (guarded : Guarded c s) : Guarded c s' := by
  obtain ⟨same, nextBit⟩ | ⟨rule, cycle, rfl⟩ := moves.guards_cases orderly
  · obtain ⟨onCycle, given, walk⟩ := guarded
    constructor <;> rw [same]
    · exact onCycle
    · rw [nextBit]
      exact given
    · rw [nextBit]
      exact walk
  · have onCycle (other : RuleId) (guard : RecursionCheck)
        (inside : (s.guards.insert rule guard).contains other = true) :
        Relation.TransGen (Requests c.grammar c.model) other other := by
      rw [Std.HashMap.contains_insert, Bool.or_eq_true] at inside
      rcases inside with this | old
      · exact eq_of_beq this ▸ cycle
      · exact guarded.cycle other old
    have kept (k : Nat) (less : k < s.nextBit) :
        ∃ other : RuleId, (s.giveGuard rule).guards[other]? = some (.bit k) := by
      obtain ⟨other, found⟩ := guarded.given k less
      exact ⟨other, giveGuard_keeps rule found⟩
    obtain ⟨_, same⟩ | ⟨_, free, same⟩ | ⟨_, full, same⟩ := s.giveGuard_cases rule
    · rw [same]
      exact guarded
    · rw [same] at kept ⊢
      refine ⟨fun other => onCycle other _, fun k less => ?_, fun other found => ?_⟩
      -- Bits are given out in order, so the new one is the next after those that were given.
      · by_cases old : k < s.nextBit
        · exact kept k old
        · have new : k = s.nextBit := by
            dsimp only at less
            omega
          exact ⟨rule, by simp [new]⟩
      · have old : s.guards[other]? = some .walk := by
          dsimp only at found
          rw [Std.HashMap.getElem?_insert] at found
          split at found
          · cases found
          · exact found
        have := guarded.walk other old
        omega
    · rw [same] at kept ⊢
      exact ⟨fun other => onCycle other _, kept, fun _ _ => full⟩

/-- A walk is given only where all bits are given. -/
theorem Guarded.walk_new [RegexEngine] (guarded : Guarded c s) (orderly : s.Orderly c)
    (moves : Moves c s s') (none : s.guards[rule]? = none) (walk : s'.guards[rule]? = some .walk) :
    ∀ k < 64, ∃ other : RuleId, s.guards[other]? = some (.bit k) := by
  intro k less
  refine guarded.given k (Nat.lt_of_lt_of_le less ?_)
  obtain ⟨same, _⟩ | ⟨other, _, rfl⟩ := moves.guards_cases orderly
  · rw [same, none] at walk
    cases walk
  · obtain ⟨_, same⟩ | ⟨_, _, same⟩ | ⟨_, full, _⟩ := s.giveGuard_cases other
    · rw [same, none] at walk
      cases walk
    · simp only [same, Std.HashMap.getElem?_insert] at walk
      split at walk
      · cases walk
      · rw [none] at walk
        cases walk
    · exact full

end Session

namespace RuleCache

/-- Guarded rules lie on cycles, and walks come after all bits. -/
theorem History.guarded [RegexEngine] (history : c.History g model) : c.session.Guarded c := by
  refine history.keeps (P := Session.Guarded) ⟨?_, ?_, ?_⟩ Session.Guarded.step
    fun {c s succeeded} _ _ guarded => ?_
  · simp [session, RuleCache.empty]
  · simp [session, RuleCache.empty]
  · simp [session, RuleCache.empty]
  · cases succeeded <;> exact ⟨guarded.cycle, guarded.given, guarded.walk⟩

/-- A rule has a guard if one was given to it. -/
theorem guard_ne_none [RegexEngine] (sound : c.Sound) :
    c.guard rule ≠ .none ↔ c.guards.contains rule = true := by
  unfold guard
  rw [Std.HashMap.contains_eq_isSome_getElem?]
  cases given : c.guards[rule]? with
  | none => simp
  | some guard =>
    refine ⟨fun _ => rfl, fun _ none => ?_⟩
    cases (show guard = .none from none)
    exact sound.guards.real rule given

/-- The guard of a rule is the one that was given to it. -/
theorem guard_eq_iff {guard : RecursionCheck} (real : guard ≠ .none) :
    c.guard rule = guard ↔ c.guards[rule]? = some guard := by
  unfold RuleCache.guard
  cases c.guards[rule]? with
  | none => simp [real.symm]
  | some given => simp

/-- A rule has a bit as its guard if it was given one. -/
theorem guard_eq_bit {k : Nat} : c.guard rule = .bit k ↔ c.guards[rule]? = some (.bit k) :=
  guard_eq_iff (by simp)

/-- A rule has a walk as its guard if it was given one. -/
theorem guard_eq_walk : c.guard rule = .walk ↔ c.guards[rule]? = some .walk :=
  guard_eq_iff (by simp)

/-- Guards stay in a request. -/
theorem get_keeps_guard [RegexEngine] {guard : RecursionCheck} (other : RuleId)
    (given : c.guards[rule]? = some guard) : (c.get other).2.guards[rule]? = some guard := by
  obtain same | ⟨s, succeeded, ended, same⟩ := c.get_after other
  · rw [same]
    exact given
  · have kept : s.guards[rule]? = some guard :=
      (Session.Moves.keeps (P := fun s => s.guards[rule]? = some guard)
        (fun orderly move given => move.guards orderly given) ended.during
        (Session.orderly_session c) given).2
    rw [same]
    cases succeeded <;> exact kept

/-! ## Cycles of calls -/

/-- The published program of a rule. -/
def program? (c : RuleCache) (rule : RuleId) : Option Program :=
  (c.ready[rule]?).bind fun h => (c.arena.get? h).bind Matcher.program?

/-- The published program of a rule calls another rule. -/
def CallsRule (c : RuleCache) (rule child : RuleId) : Prop :=
  ∃ p, c.program? rule = some p ∧ child ∈ p.calleeRules

/-- A published program is that of its rule. -/
theorem Sound.published [RegexEngine] (sound : c.Sound) {p : Program}
    (program : c.program? rule = some p) : ∃ h d, c.Published rule h d p := by
  obtain ⟨h, ready, program⟩ := Option.bind_eq_some_iff.mp program
  obtain ⟨d, p', published⟩ := sound.entries rule h ready
  cases program.symm.trans published.program
  exact ⟨h, d, published⟩

/-- Published programs call rules that they asked for. -/
theorem CallsRule.requests [RegexEngine] (sound : c.Sound) {child : RuleId}
    (calls : c.CallsRule rule child) : Requests c.grammar c.model rule child := by
  obtain ⟨p, program, called⟩ := calls
  obtain ⟨h, d, published⟩ := sound.published program
  obtain ⟨callee, member, rfl⟩ := List.mem_map.mp called
  obtain ⟨inside, there⟩ := List.mem_filter.mp member
  obtain ⟨i, found⟩ := Array.getElem?_of_mem (Array.mem_toList_iff.mp inside)
  obtain ⟨child, _ | h'⟩ := callee
  · cases there
  · exact (published.callees i child h' found).1

/-- In a cycle every element has a next one. -/
theorem exists_next {α : Type} {R : α → α → Prop} {cycle : Cycle α} (chain : cycle.Chain R) {a : α}
    (member : a ∈ cycle) : ∃ b ∈ cycle, R a b := by
  induction cycle using Quotient.inductionOn with
  | h l =>
    obtain ⟨before, after, rfl⟩ := List.append_of_mem (Cycle.mem_coe_iff.mp member)
    have turned : ((before ++ a :: after : List α) : Cycle α) = (a :: (after ++ before) : List α) :=
      Cycle.coe_eq_coe.mpr List.isRotated_append
    change Cycle.Chain R ((before ++ a :: after : List α) : Cycle α) at chain
    rw [turned, Cycle.chain_coe_cons] at chain
    obtain ⟨next, _⟩ := List.isChain_cons.mp chain
    cases rest : after ++ before with
    | nil => exact ⟨a, member, next a (by simp [rest])⟩
    | cons b _ =>
      refine ⟨b, Cycle.mem_coe_iff.mpr ?_, next b (by simp [rest])⟩
      have inside : b ∈ after ++ before := rest ▸ List.mem_cons_self
      rcases List.mem_append.mp inside with there | there <;> simp [there]

/-- A cycle of calls has a program with a guard. -/
theorem exists_guarded [RegexEngine] (sound : c.Sound) {cycle : Cycle RuleId}
    (nonempty : cycle ≠ Cycle.nil) (chain : cycle.Chain c.CallsRule) :
    ∃ rule ∈ cycle, ∃ p, c.program? rule = some p ∧ p.recursion ≠ .none := by
  by_contra unguarded
  push Not at unguarded
  -- Chains of calls of rules without guards end, so no rule of the cycle begins one.
  have outside {rule : RuleId} (grounded : Grounded c.grammar c.model c.guards rule) :
      rule ∉ cycle := by
    induction grounded with
    | @intro rule _ ih =>
      intro member
      obtain ⟨child, inside, calls⟩ := exists_next chain member
      obtain ⟨_, _, p, program, _⟩ := exists_next chain inside
      obtain ⟨h, d, published⟩ := sound.published program
      have free : c.guard child = .none :=
        published.recursion.symm.trans (unguarded child inside p program)
      refine ih child (calls.requests sound) ?_ inside
      rw [← Bool.not_eq_true, ← guard_ne_none sound]
      exact fun guarded => guarded free
  obtain ⟨rule, member⟩ : ∃ rule, rule ∈ cycle := by
    induction cycle using Quotient.inductionOn with
    | h l =>
      cases l with
      | nil => exact absurd rfl nonempty
      | cons rule _ => exact ⟨rule, Cycle.mem_coe_iff.mpr List.mem_cons_self⟩
  obtain ⟨_, _, p, program, _⟩ := exists_next chain member
  obtain ⟨h, d, published⟩ := sound.published program
  exact outside published.grounded member

/-- Every cycle is guarded, and only cycles are: after any requests, every cycle of calls of
published programs has a program with a guard, and every guarded rule lies on a cycle of requests.
Rules do not share bits, all bits are below 64, and a walk is given only once all bits are; this
holds between requests and, where a walk is given, within them. No later requests change the guard
of a rule, and published programs have the guards of their rules. -/
theorem guards_exact [RegexEngine] (history : c.History g model) :
    (∀ cycle : Cycle RuleId, cycle ≠ Cycle.nil → cycle.Chain c.CallsRule →
      ∃ rule ∈ cycle, ∃ p, c.program? rule = some p ∧ p.recursion ≠ .none) ∧
    (∀ rule : RuleId, c.guard rule ≠ .none → Relation.TransGen (Requests g model) rule rule) ∧
    (∀ (rule other : RuleId) (k : Nat), c.guard rule = .bit k → c.guard other = .bit k →
      rule = other) ∧
    (∀ (rule : RuleId) (k : Nat), c.guard rule = .bit k → k < 64) ∧
    (∀ rule : RuleId, c.guard rule = .walk → ∀ k < 64, ∃ other, c.guard other = .bit k) ∧
    (∀ s s' : Session, Session.During c s → Session.Moves c s s' → ∀ rule : RuleId,
      s.guards[rule]? = none → s'.guards[rule]? = some .walk →
        ∀ k < 64, ∃ other : RuleId, s.guards[other]? = some (.bit k)) ∧
    (∀ (rules : List RuleId) (rule : RuleId), c.guard rule ≠ .none →
      (c.getAll rules).guard rule = c.guard rule) ∧
    (∀ (rule : RuleId) (p : Program), c.program? rule = some p → p.recursion = c.guard rule) := by
  obtain ⟨sound, rfl, rfl⟩ := history.sound
  have guarded := history.guarded
  refine ⟨fun cycle nonempty chain => exists_guarded sound nonempty chain, ?_, ?_, ?_, ?_, ?_, ?_,
    ?_⟩
  · intro rule guard
    exact guarded.cycle rule ((guard_ne_none sound).mp guard)
  · intro rule other k bit bit'
    exact sound.guards.distinct rule other k (guard_eq_bit.mp bit) (guard_eq_bit.mp bit')
  · intro rule k bit
    have less := sound.guards.given rule k (guard_eq_bit.mp bit)
    exact Nat.lt_of_lt_of_le less sound.guards.bits
  · intro rule walk k less
    have full := guarded.walk rule (guard_eq_walk.mp walk)
    obtain ⟨other, given⟩ := guarded.given k (Nat.lt_of_lt_of_le less full)
    exact ⟨other, guard_eq_bit.mpr given⟩
  · intro s s' during move rule none walk
    obtain ⟨orderly, within⟩ :=
      Session.Moves.keeps Session.Guarded.step during (Session.orderly_session c) guarded
    exact within.walk_new orderly move none walk
  · intro rules rule guard
    have given := (guard_eq_iff guard).mp rfl
    refine (guard_eq_iff guard).mpr ?_
    exact getAll_keeps (P := fun c' => c'.guards[rule]? = some (c.guard rule))
      (fun other _ kept => get_keeps_guard other kept) rules history given
  · intro rule p program
    obtain ⟨h, d, published⟩ := sound.published program
    exact published.recursion

section

attribute [local instance] letterEngine

/-- Two rules that ask for each other: the cycle of both is guarded, by a bit for the one rule that
was asked for first, which lies on a cycle and keeps the bit. -/
theorem guards_exact_contrary :
    (∃ rule ∈ (([⟨0⟩, ⟨1⟩] : List RuleId) : Cycle RuleId), ∃ p,
      (contraryCache.get ⟨0⟩).2.program? rule = some p ∧ p.recursion ≠ .none) ∧
    Relation.TransGen (Requests contraryGrammar RecordModel.empty.toObjectModel) ⟨0⟩ ⟨0⟩ ∧
    ((contraryCache.get ⟨0⟩).2.getAll [⟨2⟩, ⟨1⟩]).guard ⟨0⟩ = .bit 0 := by
  obtain ⟨cycles, onCycle, _, _, _, _, stays, same⟩ := guards_exact (contrary_history ⟨0⟩)
  have one : (contraryCache.get ⟨0⟩).2.program? ⟨0⟩ =
      some (notProgram "one" ⟨0⟩ ⟨⟨1⟩, some ⟨1⟩⟩ (.bit 0)) := by
    simp [program?, contrary_ready, contrary_get_one.2.1, Arena.get?]
  have other : (contraryCache.get ⟨0⟩).2.program? ⟨1⟩ =
      some (notProgram "other" ⟨1⟩ ⟨⟨0⟩, some ⟨0⟩⟩ .none) := by
    simp [program?, contrary_get_one.2.2, contrary_get_one.2.1, Arena.get?]
  have bit : (contraryCache.get ⟨0⟩).2.guard ⟨0⟩ = .bit 0 := (same ⟨0⟩ _ one).symm
  have guarded : (contraryCache.get ⟨0⟩).2.guard ⟨0⟩ ≠ .none := by simp [bit]
  refine ⟨cycles _ (by decide) ?_, onCycle ⟨0⟩ guarded, (stays _ ⟨0⟩ guarded).trans bit⟩
  rw [Cycle.chain_coe_cons]
  simp [CallsRule, one, other, notProgram, Program.calleeRules]

end

end RuleCache

end Packrat
