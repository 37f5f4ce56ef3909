import Mathlib
import Packrat.Cache
import Packrat.Proofs.Lowering.Finished

/-!
# Published programs

What holds of the programs that a cache has published, whatever was asked of it before. A session
follows the rules depth first; a rule that is met while it is in progress closes a cycle and has a
guard from then on. So every chain of calls of rules without guards comes to an end.

* `RuleCache.History`: the caches that come about by requests.
* `GuardsSound`: guarded rules have guards of their own.
* `Grounded`: chains of calls of rules without guards end.
* `HasProgram`: the program of a rule, with what holds of the programs that it calls.

Main statement: `RuleCache.History.sound`.
-/

namespace Packrat

open Lowering (Compiled compiled_of_lowerRule callee_of_link)

/-- The caches that come about by requests for rules. -/
inductive RuleCache.History [RegexEngine] (g : Grammar) (model : ObjectModel) :
    RuleCache → Prop where
  /-- Nothing was asked for. -/
  | empty : History g model (.empty g model)
  /-- One more rule was asked for. -/
  | get {c : RuleCache} (before : History g model c) (rule : RuleId) :
    History g model (c.get rule).2

/-! ## Guards -/

/-- The guards given. -/
abbrev Guards := Std.HashMap RuleId RecursionCheck

/-- Guards given are guards, and the bits among them are bits of the mask that differ from rule to
rule. -/
structure GuardsSound (guards : Guards) (nextBit : Nat) : Prop where
  bits : nextBit ≤ 64
  given : ∀ (rule : RuleId) (k : Nat), guards[rule]? = some (.bit k) → k < nextBit
  distinct : ∀ (rule rule' : RuleId) (k : Nat), guards[rule]? = some (.bit k) →
    guards[rule']? = some (.bit k) → rule = rule'
  real : ∀ rule : RuleId, guards[rule]? ≠ some .none

/-- No guards are sound. -/
theorem GuardsSound.empty : GuardsSound ∅ 0 where
  bits := Nat.zero_le _
  given _ _ h := by simp at h
  distinct _ _ _ h := by simp at h
  real _ := by simp

/-- A guard that is given is a new bit or a walk. -/
theorem GuardsSound.insert {guards : Guards} {nextBit nextBit' : Nat}
    (sound : GuardsSound guards nextBit) (rule : RuleId) {guard : RecursionCheck}
    (given : guard = .walk ∧ nextBit' = nextBit ∨
      guard = .bit nextBit ∧ nextBit < 64 ∧ nextBit' = nextBit + 1) :
    GuardsSound (guards.insert rule guard) nextBit' := by
  have le : nextBit ≤ nextBit' ∧ nextBit' ≤ 64 := by
    have bits := sound.bits
    rcases given with ⟨_, rfl⟩ | ⟨_, _, rfl⟩ <;> omega
  -- A bit is that of the rule that it was given to now, or an old one.
  have bitOf {other : RuleId} {k : Nat}
      (there : (guards.insert rule guard)[other]? = some (.bit k)) :
      (other = rule ∧ k = nextBit ∧ nextBit < nextBit') ∨
        (other ≠ rule ∧ guards[other]? = some (.bit k) ∧ k < nextBit) := by
    rw [Std.HashMap.getElem?_insert] at there
    split at there
    case isTrue same =>
      rcases given with ⟨rfl, _⟩ | ⟨rfl, _, rfl⟩ <;> cases there
      exact .inl ⟨(eq_of_beq same).symm, rfl, Nat.lt_succ_self _⟩
    case isFalse differs =>
      refine .inr ⟨?_, there, sound.given other k there⟩
      rintro rfl
      simp at differs
  constructor
  · exact le.2
  · intro other k there
    rcases bitOf there with ⟨_, rfl, less⟩ | ⟨_, _, less⟩ <;> omega
  · intro other other' k there there'
    rcases bitOf there with ⟨rfl, rfl, _⟩ | ⟨_, old, less⟩
    · rcases bitOf there' with ⟨rfl, _, _⟩ | ⟨_, _, less'⟩
      · rfl
      · omega
    · rcases bitOf there' with ⟨rfl, rfl, _⟩ | ⟨_, old', _⟩
      · omega
      · exact sound.distinct other other' k old old'
  · intro other
    rw [Std.HashMap.getElem?_insert]
    split
    · rcases given with ⟨rfl, _⟩ | ⟨rfl, _, _⟩ <;> simp
    · exact sound.real other

/-! ## Chains of calls -/

section

variable (g : Grammar) (model : ObjectModel)

/-- Every chain of calls from the rule on comes to an end or to a guarded rule. -/
inductive Grounded [RegexEngine] (guards : Guards) : RuleId → Prop where
  /-- The children do so or are guarded. -/
  | intro {rule : RuleId} (below : ∀ child ∈ (lowerRule g model rule).requests,
      guards.contains child = false → Grounded guards child) : Grounded guards rule

/-- The program of a rule is the lowered one with the matchers of the rules that it asked for, and
with a guard. -/
def Linked [RegexEngine] (handleOf : RuleId → Option Handle) (rule : RuleId) (p : Program) : Prop :=
  ∃ raw, (lowerRule g model rule).result = .ok raw ∧
    p = { raw.link handleOf with recursion := p.recursion } ∧
    ∀ callee ∈ raw.callees, ∃ h, handleOf callee.rule = some h

/-- The program of a rule that has its matcher in an arena: it is the one of the rule, it has the
guard of the rule, and it calls the rules that it asked for by their matchers. -/
structure HasProgram [RegexEngine] (arena : Arena) (guards : Guards)
    (handleOf : RuleId → Option Handle) (rule : RuleId) (h : Handle) (d : RuleDef) (p : Program) :
    Prop where
  program : (arena.get? h).bind Matcher.program? = some p
  compiled : Compiled g model rule d p
  recursion : p.recursion = (guards[rule]?).getD .none
  callees : ∀ (i : Nat) (child : RuleId) (h' : Handle), p.callees[i]? = some ⟨child, some h'⟩ →
    child ∈ (lowerRule g model rule).requests ∧ handleOf child = some h'
  linked : Linked g model handleOf rule p
  grounded : Grounded g model guards rule

end

variable {g : Grammar} {model : ObjectModel} {rule : RuleId}

/-- More guards keep chains from going on. -/
theorem Grounded.mono [RegexEngine] {guards guards' : Guards}
    (more : ∀ rule : RuleId, guards.contains rule = true → guards'.contains rule = true)
    (grounded : Grounded g model guards rule) : Grounded g model guards' rule := by
  induction grounded with
  | intro _ ih =>
    refine .intro fun child member unguarded => ih child member ?_
    cases guarded : guards.contains child with
    | false => rfl
    | true => rw [more child guarded] at unguarded; cases unguarded

/-- A program stays linked where more matchers are there. -/
theorem Linked.mono [RegexEngine] {handleOf handleOf' : RuleId → Option Handle} {p : Program}
    (linked : Linked g model handleOf rule p)
    (handles : ∀ rule h, handleOf rule = some h → handleOf' rule = some h) :
    Linked g model handleOf' rule p := by
  obtain ⟨raw, lowered, same, answered⟩ := linked
  refine ⟨raw, lowered, same.trans ?_, fun callee member => ?_⟩
  · rw [Program.link, Program.link]
    refine congrArg (fun callees => { raw with callees, recursion := p.recursion }) ?_
    refine Array.map_congr_left fun callee member => ?_
    obtain ⟨h, found⟩ := answered callee member
    rw [found, handles _ _ found]
  · obtain ⟨h, found⟩ := answered callee member
    exact ⟨h, handles _ _ found⟩

/-- An entry stays where its program, its guard, and the matchers there are stay. -/
theorem HasProgram.mono [RegexEngine] {arena arena' : Arena} {guards guards' : Guards}
    {handleOf handleOf' : RuleId → Option Handle} {h : Handle} {d : RuleDef} {p : Program}
    (entry : HasProgram g model arena guards handleOf rule h d p)
    (program : (arena'.get? h).bind Matcher.program? = (arena.get? h).bind Matcher.program?)
    (same : guards'[rule]? = guards[rule]?)
    (more : ∀ rule : RuleId, guards.contains rule = true → guards'.contains rule = true)
    (handles : ∀ rule h, handleOf rule = some h → handleOf' rule = some h) :
    HasProgram g model arena' guards' handleOf' rule h d p where
  program := program.trans entry.program
  compiled := entry.compiled
  recursion := by rw [same, entry.recursion]
  callees i child h' there :=
    ⟨(entry.callees i child h' there).1, handles _ _ (entry.callees i child h' there).2⟩
  linked := entry.linked.mono handles
  grounded := entry.grounded.mono more

/-! ## Sessions -/

namespace Session

variable {c : RuleCache} {s s' s'' : Session}

/-- What holds of a session between its actions. -/
structure Sound [RegexEngine] (c : RuleCache) (s : Session) : Prop where
  entries : ∀ (rule : RuleId) (h : Handle), c.ready[rule]? = some h ∨ s.done[rule]? = some h →
    ∃ d p, HasProgram c.grammar c.model s.arena s.guards (s.handleOf c) rule h d p
  guards : GuardsSound s.guards s.nextBit
  done : ∀ (rule : RuleId) (h : Handle), s.done[rule]? = some h → c.ready[rule]? = none
  inProgress : ∀ (rule : RuleId) (h : Handle), s.inProgress.lookup rule = some h →
    c.ready[rule]? = none ∧ s.done[rule]? = none

/-- What a session has kept, whether it goes on or not: guards stay, and published rules get no
new ones. -/
structure KeepsGuards (c : RuleCache) (s s' : Session) : Prop where
  sound : GuardsSound s'.guards s'.nextBit
  more : ∀ rule : RuleId, s.guards.contains rule = true → s'.guards.contains rule = true
  same : ∀ (rule : RuleId) (h : Handle), c.ready[rule]? = some h →
    s'.guards[rule]? = s.guards[rule]?

/-- What a session that goes on has kept besides. -/
structure Later (c : RuleCache) (s s' : Session) : Prop where
  handles : ∀ (rule : RuleId) (h : Handle), s.handleOf c rule = some h → s'.handleOf c rule = some h
  inProgress : s'.inProgress = s.inProgress

/-- Guards that are kept twice are kept. -/
theorem KeepsGuards.trans (first : KeepsGuards c s s') (second : KeepsGuards c s' s'') :
    KeepsGuards c s s'' where
  sound := second.sound
  more rule given := second.more rule (first.more rule given)
  same rule h ready := (second.same rule h ready).trans (first.same rule h ready)

/-- A session is as late as itself. -/
theorem Later.refl (c : RuleCache) (s : Session) : Later c s s where
  handles _ _ found := found
  inProgress := rfl

/-- What is later than a later session is later. -/
theorem Later.trans (first : Later c s s') (second : Later c s' s'') : Later c s s'' where
  handles rule h found := second.handles rule h (first.handles rule h found)
  inProgress := second.inProgress.trans first.inProgress

/-- A rule has its matcher, and chains of calls from it end, unless it is guarded. -/
def Served [RegexEngine] (c : RuleCache) (s : Session) (rule : RuleId) : Prop :=
  (∃ h, s.handleOf c rule = some h) ∧
    (s.guards.contains rule = false → Grounded c.grammar c.model s.guards rule)

/-- A rule that is served stays so. -/
theorem Served.later [RegexEngine] {rule : RuleId} (served : Served c s rule) (later : Later c s s')
    (guards : KeepsGuards c s s') : Served c s' rule := by
  obtain ⟨⟨h, found⟩, grounded⟩ := served
  refine ⟨⟨h, later.handles rule h found⟩, fun unguarded => ?_⟩
  refine (grounded ?_).mono guards.more
  cases guarded : s.guards.contains rule with
  | false => rfl
  | true => rw [guards.more rule guarded] at unguarded; cases unguarded

/-! ### Single actions -/

/-- A rule that is published or done has its matcher. -/
theorem handleOf_of_ready {rule : RuleId} {h : Handle}
    (found : ((c.ready[rule]?).orElse fun _ => s.done[rule]?) = some h) :
    s.handleOf c rule = some h := by
  unfold handleOf
  cases ready : c.ready[rule]? with
  | some h' =>
    rw [ready] at found
    exact found
  | none =>
    rw [ready] at found
    simp only [Option.orElse_none] at found ⊢
    rw [found]
    rfl

/-- A rule that is published or done is served. -/
theorem Sound.served [RegexEngine] (sound : s.Sound c) {rule : RuleId} {h : Handle}
    (found : ((c.ready[rule]?).orElse fun _ => s.done[rule]?) = some h) :
    Served c s rule := by
  have there : c.ready[rule]? = some h ∨ s.done[rule]? = some h := by
    cases ready : c.ready[rule]? with
    | some h' =>
      rw [ready] at found
      exact .inl found
    | none =>
      rw [ready] at found
      exact .inr found
  obtain ⟨d, p, entry⟩ := sound.entries rule h there
  exact ⟨⟨h, handleOf_of_ready found⟩, fun _ => entry.grounded⟩

/-- Entries stay where guards are added for other rules and matchers without entries. -/
theorem Sound.entries_mono [RegexEngine] (sound : s.Sound c) {rule : RuleId} {h : Handle}
    (there : c.ready[rule]? = some h ∨ s.done[rule]? = some h)
    (program : ∀ p, (s.arena.get? h).bind Matcher.program? = some p →
      (s'.arena.get? h).bind Matcher.program? = some p)
    (same : s'.guards[rule]? = s.guards[rule]?)
    (guards : ∀ rule : RuleId, s.guards.contains rule = true → s'.guards.contains rule = true)
    (handles : ∀ rule h, s.handleOf c rule = some h → s'.handleOf c rule = some h) :
    ∃ d p, HasProgram c.grammar c.model s'.arena s'.guards (s'.handleOf c) rule h d p := by
  obtain ⟨d, p, entry⟩ := sound.entries rule h there
  exact ⟨d, p, entry.mono ((program p entry.program).trans entry.program.symm) same guards handles⟩

/-- Giving a guard to a rule in progress. -/
theorem giveGuard_sound [RegexEngine] (sound : s.Sound c) {rule : RuleId} {h : Handle}
    (progress : s.inProgress.lookup rule = some h) :
    (s.giveGuard rule).Sound c ∧ Later c s (s.giveGuard rule) ∧
      KeepsGuards c s (s.giveGuard rule) ∧ (s.giveGuard rule).guards.contains rule = true := by
  obtain ⟨notReady, notDone⟩ := sound.inProgress rule h progress
  unfold giveGuard
  split
  case isTrue given =>
    exact ⟨sound, .refl c s, ⟨sound.guards, fun _ given => given, fun _ _ _ => rfl⟩, given⟩
  case isFalse new =>
    -- Either way there is one more guard, and nothing else changes.
    have oneMore (guard : RecursionCheck) (nextBit : Nat)
        (given : guard = .walk ∧ nextBit = s.nextBit ∨
          guard = .bit s.nextBit ∧ s.nextBit < 64 ∧ nextBit = s.nextBit + 1) :
        Sound c { s with guards := s.guards.insert rule guard, nextBit } ∧
          Later c s { s with guards := s.guards.insert rule guard, nextBit } ∧
          KeepsGuards c s { s with guards := s.guards.insert rule guard, nextBit } ∧
          (s.guards.insert rule guard).contains rule = true := by
      have guards := sound.guards.insert rule given
      have more (other : RuleId) (contained : s.guards.contains other = true) :
          (s.guards.insert rule guard).contains other = true := by
        rw [Std.HashMap.contains_insert, contained, Bool.or_true]
      have same {other : RuleId} (differs : rule ≠ other) :
          (s.guards.insert rule guard)[other]? = s.guards[other]? := by
        rw [Std.HashMap.getElem?_insert, if_neg (by simpa using differs)]
      refine ⟨⟨?_, guards, sound.done, sound.inProgress⟩, ⟨fun _ _ found => found, rfl⟩,
        ⟨guards, more, ?_⟩, by simp⟩
      · intro other h' there
        refine sound.entries_mono there (fun _ found => found) (same ?_) more fun _ _ found => found
        rintro rfl
        rcases there with ready | done
        · rw [notReady] at ready
          cases ready
        · rw [notDone] at done
          cases done
      · intro other h' ready
        refine same ?_
        rintro rfl
        rw [notReady] at ready
        cases ready
    split
    case isTrue free => exact oneMore _ _ (.inr ⟨rfl, free, rfl⟩)
    case isFalse => exact oneMore _ _ (.inl ⟨rfl, rfl⟩)

/-- The session in which a rule is in progress. -/
def begin (c : RuleCache) (s : Session) (rule : RuleId) : Session :=
  { s with
    arena := (s.arena.declare rule (c.grammar.displayName rule)).1
    inProgress := (rule, ⟨s.arena.size⟩) :: s.inProgress }

/-- The session in which the innermost rule in progress is done. -/
def finished (s : Session) (arena : Arena) (rule : RuleId) (h : Handle) : Session :=
  { s with arena, done := s.done.insert rule h, inProgress := s.inProgress.tail }

/-- A matcher that is there stays when one is declared. -/
theorem get?_declare {arena : Arena} {rule : RuleId} {name : String} {h : Handle} {m : Matcher}
    (there : arena.get? h = some m) : (arena.declare rule name).1.get? h = some m := by
  unfold Arena.get? at there ⊢
  exact getElem?_push_of_some there

/-- A rule that is not there yet begins. -/
theorem begin_sound [RegexEngine] (sound : s.Sound c) {rule : RuleId}
    (absent : ((c.ready[rule]?).orElse fun _ => s.done[rule]?) = none)
    (idle : s.inProgress.lookup rule = none) :
    (begin c s rule).Sound c ∧ (∀ other h, s.handleOf c other = some h →
      (begin c s rule).handleOf c other = some h) ∧
      (begin c s rule).handleOf c rule = some ⟨s.arena.size⟩ := by
  have notReady : c.ready[rule]? = none := by
    cases ready : c.ready[rule]? with
    | none => rfl
    | some h => rw [ready] at absent; cases absent
  have notDone : s.done[rule]? = none := by
    rw [notReady] at absent
    exact absent
  have handles (other : RuleId) (h : Handle) (found : s.handleOf c other = some h) :
      (begin c s rule).handleOf c other = some h := by
    have differs : (other == rule) = false := by
      cases same : other == rule with
      | false => rfl
      | true =>
        rw [eq_of_beq same] at found
        unfold handleOf at found
        rw [notReady, notDone, idle] at found
        cases found
    unfold handleOf at found ⊢
    simpa [begin, List.lookup_cons, differs] using found
  refine ⟨⟨?_, sound.guards, sound.done, ?_⟩, handles, ?_⟩
  · intro other h there
    refine sound.entries_mono there (fun p found => ?_) rfl (fun _ given => given) handles
    obtain ⟨m, there, program⟩ := Option.bind_eq_some_iff.mp found
    exact Option.bind_eq_some_iff.mpr ⟨m, get?_declare there, program⟩
  · intro other h progress
    change ((rule, _) :: s.inProgress).lookup other = some h at progress
    rw [List.lookup_cons] at progress
    split at progress
    case h_1 same =>
      rw [eq_of_beq same]
      exact ⟨notReady, notDone⟩
    case h_2 => exact sound.inProgress other h progress
  · unfold handleOf begin
    dsimp only
    rw [notReady, notDone, List.lookup_cons_self]
    rfl

/-- A matcher that gets its program had none, and no other matcher changes. -/
theorem program_of_resolve {arena arena' : Arena} {h : Handle} {p : Program}
    (resolved : arena.resolve h p = .ok arena') :
    (arena.get? h).bind Matcher.program? = none ∧
      (arena'.get? h).bind Matcher.program? = some p ∧
      ∀ other : Handle, other ≠ h → arena'.get? other = arena.get? other := by
  unfold Arena.resolve at resolved
  cases there : arena.get? h with
  | none =>
    rw [there] at resolved
    cases resolved
  | some m =>
    rw [there] at resolved
    dsimp only [Matcher.resolve] at resolved
    cases program : m.program? with
    | some p' =>
      rw [program] at resolved
      cases resolved
    | none =>
      rw [program] at resolved
      cases resolved
      have inside : h.index < arena.size := (Array.getElem?_eq_some_iff.mp there).1
      refine ⟨program, ?_, fun other differs => ?_⟩
      · rw [Arena.get?, Array.getElem?_setIfInBounds_self_of_lt inside]
        rfl
      · refine Array.getElem?_setIfInBounds_ne fun same => differs ?_
        cases other
        cases h
        cases same
        rfl

section

variable {arena : Arena} {rule other : RuleId} {h : Handle} {rest : List (RuleId × Handle)}

/-- Finishing a rule leaves the others as done as they were. -/
theorem done_finished (differs : rule ≠ other) :
    (finished s arena rule h).done[other]? = s.done[other]? := by
  rw [finished, Std.HashMap.getElem?_insert, if_neg (by simpa using differs)]

/-- The other rules in progress stay so when the innermost one is finished. -/
theorem inProgress_finished (progress : s.inProgress = (rule, h) :: rest)
    (differs : rule ≠ other) :
    (finished s arena rule h).inProgress.lookup other = s.inProgress.lookup other := by
  have apart : (other == rule) = false := by simpa using Ne.symm differs
  rw [finished, progress, List.tail_cons, List.lookup_cons, apart]

/-- The rule moves from the rules in progress to those done, with the same matcher. -/
theorem handleOf_finished [RegexEngine] (sound : s.Sound c)
    (progress : s.inProgress = (rule, h) :: rest) (other : RuleId) :
    (finished s arena rule h).handleOf c other = s.handleOf c other := by
  by_cases same : rule = other
  · subst same
    have lookup : s.inProgress.lookup rule = some h := by rw [progress, List.lookup_cons_self]
    obtain ⟨notReady, notDone⟩ := sound.inProgress rule h lookup
    have done : (finished s arena rule h).done[rule]? = some h := by simp [finished]
    unfold handleOf
    rw [notReady, notDone, done, lookup]
    rfl
  · unfold handleOf
    rw [done_finished same, inProgress_finished progress same]

/-- The matcher of the innermost rule in progress gets its program once everything that the rule
asks for is served. -/
theorem finished_program [RegexEngine] (sound : s.Sound c)
    (progress : s.inProgress = (rule, h) :: rest)
    (served : ∀ child ∈ (lowerRule c.grammar c.model rule).requests, Served c s child)
    {p : Program} (lowered : (lowerRule c.grammar c.model rule).result = .ok p)
    (filled : (arena.get? h).bind Matcher.program? =
      some { p.link (s.handleOf c) with recursion := (s.guards[rule]?).getD .none }) :
    ∃ d, HasProgram c.grammar c.model arena s.guards ((finished s arena rule h).handleOf c) rule h
      d { p.link (s.handleOf c) with recursion := (s.guards[rule]?).getD .none } := by
  have handles (other : RuleId) :
      (finished s arena rule h).handleOf c other = s.handleOf c other :=
    handleOf_finished sound progress other
  obtain ⟨callees, compiled⟩ := compiled_of_lowerRule lowered
  obtain ⟨d, compiled⟩ := compiled (s.handleOf c) ((s.guards[rule]?).getD .none)
    fun child member => (served child member).1
  have linked : Linked c.grammar c.model (s.handleOf c) rule
      { p.link (s.handleOf c) with recursion := (s.guards[rule]?).getD .none } :=
    ⟨p, lowered, rfl, fun callee member => (served _ (callees callee member)).1⟩
  refine ⟨d, filled, compiled, rfl, fun i child h' there => ?_,
    linked.mono fun other h' found => (handles other).trans found,
    .intro fun child member => (served child member).2⟩
  obtain ⟨⟨callee, member, rfl⟩, found⟩ := callee_of_link (p := p) there
  exact ⟨callees callee member, (handles _).trans found⟩

/-- The innermost rule in progress is done once everything that it asks for is served. -/
theorem finished_sound [RegexEngine] (sound : s.Sound c)
    (progress : s.inProgress = (rule, h) :: rest) (idle : rest.lookup rule = none)
    (served : ∀ child ∈ (lowerRule c.grammar c.model rule).requests, Served c s child)
    {p : Program} (lowered : (lowerRule c.grammar c.model rule).result = .ok p)
    (resolved : s.arena.resolve h
      { p.link (s.handleOf c) with recursion := (s.guards[rule]?).getD .none } = .ok arena) :
    (finished s arena rule h).Sound c ∧ (∀ other h', s.handleOf c other = some h' →
      (finished s arena rule h).handleOf c other = some h') ∧
      Served c (finished s arena rule h) rule := by
  obtain ⟨missing, filled, others⟩ := program_of_resolve resolved
  have lookup : s.inProgress.lookup rule = some h := by rw [progress, List.lookup_cons_self]
  obtain ⟨notReady, _⟩ := sound.inProgress rule h lookup
  obtain ⟨d, new⟩ := finished_program sound progress served lowered filled
  have later (other : RuleId) (h' : Handle) (found : s.handleOf c other = some h') :
      (finished s arena rule h).handleOf c other = some h' :=
    (handleOf_finished sound progress other).trans found
  -- No other entry has the matcher that is filled now.
  have old {other : RuleId} {h' : Handle}
      (there : c.ready[other]? = some h' ∨ s.done[other]? = some h') :
      ∃ d p, HasProgram c.grammar c.model arena s.guards ((finished s arena rule h).handleOf c)
        other h' d p := by
    refine @Sound.entries_mono c s (finished s arena rule h) _ sound _ _ there
      (fun p found => ?_) rfl
      (fun _ given => given) later
    have differs : h' ≠ h := by
      rintro rfl
      rw [missing] at found
      cases found
    rw [finished, others h' differs]
    exact found
  refine ⟨⟨fun other h' there => ?_, sound.guards, fun other h' done => ?_,
    fun other h' found => ?_⟩, later, ⟨h, ?_⟩, fun _ => new.grounded⟩
  · rcases there with ready | done
    · exact old (.inl ready)
    · by_cases same : rule = other
      · subst same
        obtain rfl : h = h' := by simpa [finished] using done
        exact ⟨d, _, new⟩
      · exact old (.inr (done_finished same ▸ done))
  · by_cases same : rule = other
    · exact same ▸ notReady
    · exact sound.done other h' (done_finished same ▸ done)
  · by_cases same : rule = other
    · subst same
      rw [finished, progress, List.tail_cons, idle] at found
      cases found
    · rw [done_finished same]
      exact sound.inProgress other h' (inProgress_finished progress same ▸ found)
  · refine later rule h ?_
    unfold handleOf
    rw [notReady, (sound.inProgress rule h lookup).2, lookup]
    rfl

end

/-! ### Requests -/

/-- Requests are answered one by one. -/
theorem answer_cons (resolve : RuleId → Action Handle) (id : RuleId) (rest : List RuleId)
    (s : Session) : answer resolve (id :: rest) s = match resolve id s with
      | (.ok _, s) => answer resolve rest s
      | (.error e, s) => (.error e, s) := by
  simp only [answer, bind, ExceptT.bind, ExceptT.mk, StateT.bind]
  generalize resolve id s = result
  obtain ⟨_ | _, _⟩ := result <;> rfl

/-- An action that reads the session goes on with it. -/
theorem get_bind {α : Type} (f : Session → Action α) (s : Session) :
    (get >>= f : Action α) s = f s s := rfl

/-- An action behind a new session goes on with that one. -/
theorem set_bind {α : Type} (s' : Session) (f : PUnit → Action α) (s : Session) :
    (set s' >>= f : Action α) s = f ⟨⟩ s' := rfl

/-- What follows an attempt runs whether that has failed or not. -/
theorem attempt_bind {α β : Type} (act : Action α) (f : Except CompileError α → Action β)
    (s : Session) : (attempt act >>= f : Action β) s = f (act s).1 (act s).2 := rfl

/-- Completing a rule, with its cases. -/
theorem complete_eq (c : RuleCache) (rule : RuleId) (h : Handle) (p : Program) (s : Session) :
    complete c rule h p s =
      match s.arena.resolve h
        { p.link (s.handleOf c) with recursion := (s.guards[rule]?).getD .none } with
      | .error fault => (.error (.fault fault), s)
      | .ok arena => (.ok h, finished s arena rule h) := by
  refine (get_bind _ s).trans ?_
  cases s.arena.resolve h
    { p.link (s.handleOf c) with recursion := (s.guards[rule]?).getD .none } <;> rfl

variable [RegexEngine]

/-- What becomes of a request for a rule that is not there yet, once everything that it asks for is
answered. -/
def compiledNow (c : RuleCache) (rule : RuleId) (h : Handle) :
    Except CompileError Unit × Session → Except CompileError Handle × Session
  | (.error e, s) => fail rule e s
  | (.ok (), s) =>
    match (lowerRule c.grammar c.model rule).result with
    | .error e => fail rule e s
    | .ok p => complete c rule h p s

/-- What a rule comes to once its requests are answered, as an action. -/
theorem compiledNow_eq (c : RuleCache) (rule : RuleId) (h : Handle)
    (answered : Except CompileError Unit × Session) :
    compiledNow c rule h answered =
      (match answered.1 with
        | .error e => fail rule e
        | .ok () =>
          match (lowerRule c.grammar c.model rule).result with
          | .error e => fail rule e
          | .ok p => complete c rule h p : Action Handle) answered.2 := by
  obtain ⟨_ | _, s⟩ := answered
  · rfl
  · rw [compiledNow]
    cases (lowerRule c.grammar c.model rule).result <;> rfl

/-- A request, with its cases: there, failed, in progress, or new. -/
theorem resolve_succ (c : RuleCache) (fuel : Nat) (rule : RuleId) (s : Session) :
    resolve c (fuel + 1) rule s =
      match (c.ready[rule]?).orElse fun _ => s.done[rule]? with
      | some h => (.ok h, s)
      | none =>
        match s.failed[rule]? with
        | some e => (.error e, s)
        | none =>
          match s.inProgress.lookup rule with
          | some h => (.ok h, s.giveGuard rule)
          | none => compiledNow c rule ⟨s.arena.size⟩
              (answer (resolve c fuel) (lowerRule c.grammar c.model rule).requests
                (begin c s rule)) := by
  rw [resolve]
  refine (get_bind _ s).trans ?_
  cases (c.ready[rule]?).orElse fun _ => s.done[rule]? with
  | some h => rfl
  | none =>
    cases s.failed[rule]? with
    | some e => rfl
    | none =>
      cases s.inProgress.lookup rule with
      | some h => rfl
      | none =>
        refine (set_bind _ _ s).trans ((attempt_bind _ _ _).trans ?_)
        exact (compiledNow_eq c rule ⟨s.arena.size⟩ _).symm

/-- An action that goes on keeps the session sound and comes to what is asked of it; one that fails
keeps the guards at least. -/
def Keeps (c : RuleCache) (s : Session) {α : Type} (Holds : α → Session → Prop) :
    Except CompileError α × Session → Prop
  | (.ok x, s') => s'.Sound c ∧ Later c s s' ∧ KeepsGuards c s s' ∧ Holds x s'
  | (.error _, s') => KeepsGuards c s s'

/-- A sound session keeps its own guards. -/
theorem KeepsGuards.refl (sound : s.Sound c) : KeepsGuards c s s :=
  ⟨sound.guards, fun _ given => given, fun _ _ _ => rfl⟩

/-- Everything in a list is served if each single request is answered. -/
theorem answer_keeps {resolve : RuleId → Action Handle}
    (one : ∀ (rule : RuleId) (s : Session), s.Sound c →
      Keeps c s (fun h s' => s'.handleOf c rule = some h ∧ Served c s' rule) (resolve rule s))
    (rules : List RuleId) (sound : s.Sound c) :
    Keeps c s (fun _ s' => ∀ rule ∈ rules, Served c s' rule) (answer resolve rules s) := by
  induction rules generalizing s with
  | nil => exact ⟨sound, .refl c s, .refl sound, by simp⟩
  | cons rule rest ih =>
    rw [answer_cons]
    have first := one rule s sound
    generalize resolve rule s = result at first ⊢
    obtain ⟨_ | h, s'⟩ := result
    · exact first
    · obtain ⟨sound', later, guards, _, served⟩ := first
      have second := ih sound'
      dsimp only
      generalize answer resolve rest s' = result at second ⊢
      obtain ⟨_ | _, s''⟩ := result
      · exact guards.trans second
      · obtain ⟨sound'', later', guards', all⟩ := second
        refine ⟨sound'', later.trans later', guards.trans guards', fun other member => ?_⟩
        rcases List.mem_cons.mp member with rfl | member
        · exact served.later later' guards'
        · exact all other member

/-- Once everything that it asks for is served, the rule that began is served as well. -/
theorem compiledNow_keeps {rule : RuleId}
    (absent : ((c.ready[rule]?).orElse fun _ => s.done[rule]?) = none) (sound : s.Sound c)
    (progress : s.inProgress.lookup rule = none) {answered : Except CompileError Unit × Session}
    (below : Keeps c (begin c s rule)
      (fun _ s' => ∀ child ∈ (lowerRule c.grammar c.model rule).requests, Served c s' child)
      answered) :
    Keeps c s (fun h s' => s'.handleOf c rule = some h ∧ Served c s' rule)
      (compiledNow c rule ⟨s.arena.size⟩ answered) := by
  obtain ⟨_, handles, found⟩ := begin_sound sound absent progress
  obtain ⟨_ | _, s'⟩ := answered
  · exact ⟨below.sound, below.more, below.same⟩
  · obtain ⟨sound', later, guards, served⟩ := below
    have kept : KeepsGuards c s s' := ⟨guards.sound, guards.more, guards.same⟩
    rw [compiledNow]
    cases lowered : (lowerRule c.grammar c.model rule).result with
    | error e => exact ⟨kept.sound, kept.more, kept.same⟩
    | ok p =>
      dsimp only
      rw [complete_eq]
      cases resolved : s'.arena.resolve ⟨s.arena.size⟩
        { p.link (s'.handleOf c) with recursion := (s'.guards[rule]?).getD .none } with
      | error fault => exact kept
      | ok arena =>
        obtain ⟨sound'', handles', served'⟩ := finished_sound sound' later.inProgress
          progress served lowered resolved
        refine ⟨sound'', ⟨?_, ?_⟩, ⟨kept.sound, kept.more, kept.same⟩, ?_, served'⟩
        · exact fun other h found =>
            handles' other h (later.handles other h (handles other h found))
        · rw [finished, later.inProgress]
          rfl
        · exact handles' rule _ (later.handles rule _ found)

/-- A request that is answered leaves the session sound and its rule served. -/
theorem resolve_keeps (fuel : Nat) (rule : RuleId) (sound : s.Sound c) :
    Keeps c s (fun h s' => s'.handleOf c rule = some h ∧ Served c s' rule)
      (resolve c fuel rule s) := by
  induction fuel generalizing rule s with
  | zero => exact KeepsGuards.refl sound
  | succ fuel ih =>
    rw [resolve_succ]
    cases there : (c.ready[rule]?).orElse fun _ => s.done[rule]? with
    | some h =>
      exact ⟨sound, .refl c s, .refl sound, handleOf_of_ready there, sound.served there⟩
    | none =>
      cases s.failed[rule]? with
      | some e => exact KeepsGuards.refl sound
      | none =>
        cases progress : s.inProgress.lookup rule with
        | some h =>
          obtain ⟨sound', later, guards, guarded⟩ := giveGuard_sound sound progress
          have found : s.handleOf c rule = some h := by
            obtain ⟨notReady, notDone⟩ := sound.inProgress rule h progress
            unfold handleOf
            rw [notReady, notDone, progress]
            rfl
          have found' := later.handles rule h found
          refine ⟨sound', later, guards, found', ⟨h, found'⟩, fun unguarded => ?_⟩
          rw [guarded] at unguarded
          cases unguarded
        | none =>
          exact compiledNow_keeps there sound progress
            (answer_keeps (fun rule s sound => ih rule sound) _
              (begin_sound sound there progress).1)

end Session

/-! ## Caches -/

namespace RuleCache

/-- Entries of a table that are added to another one. -/
theorem getElem?_fold_insert (added table : Std.HashMap RuleId Handle) (rule : RuleId) :
    (added.fold (fun m rule h => m.insert rule h) table)[rule]? =
      (added[rule]?).orElse fun _ => table[rule]? := by
  have same : (added.fold (fun m rule h => m.insert rule h) table)[rule]? =
      (table.insertMany added.toList)[rule]? := by
    rw [Std.HashMap.fold_eq_foldl_toList]
    exact (Std.HashMap.insertMany_list_equiv_foldl.getElem?_eq).symm
  rw [same]
  cases there : added[rule]? with
  | some h =>
    exact Std.HashMap.getElem?_insertMany_list_of_mem BEq.rfl
      Std.HashMap.distinct_keys_toList (Std.HashMap.mem_toList_iff_getElem?_eq_some.mpr there)
  | none =>
    refine Std.HashMap.getElem?_insertMany_list_of_contains_eq_false ?_
    rw [Std.HashMap.map_fst_toList_eq_keys, List.contains_eq_mem]
    refine decide_eq_false fun member => ?_
    rw [Std.HashMap.mem_keys, ← Std.HashMap.contains_iff_mem,
      Std.HashMap.contains_eq_isSome_getElem?, there] at member
    cases member

variable [RegexEngine] {c : RuleCache}

/-- The program of a rule is published. -/
abbrev Published (c : RuleCache) (rule : RuleId) (h : Handle) (d : RuleDef) (p : Program) : Prop :=
  HasProgram c.grammar c.model c.arena c.guards (fun rule => c.ready[rule]?) rule h d p

/-- What holds of a cache between requests. -/
structure Sound (c : RuleCache) : Prop where
  entries : ∀ (rule : RuleId) (h : Handle), c.ready[rule]? = some h → ∃ d p, c.Published rule h d p
  guards : GuardsSound c.guards c.nextBit

/-- A session of a sound cache starts sound. -/
theorem session_sound (sound : c.Sound) : c.session.Sound c where
  entries rule h there := by
    rcases there with ready | done
    · obtain ⟨d, p, entry⟩ := sound.entries rule h ready
      refine ⟨d, p, entry.mono rfl rfl (fun _ given => given) fun other h' found => ?_⟩
      unfold Session.handleOf
      rw [found]
      rfl
    · simp [session] at done
  guards := sound.guards
  done _ _ done := by simp [session] at done
  inProgress _ _ progress := by simp [session] at progress

/-- A session that came to its end is published. -/
theorem afterSession_sound {s : Session} (sound : s.Sound c) (finished : s.inProgress = []) :
    (c.afterSession s true).Sound := by
  have ready (rule : RuleId) :
      (c.afterSession s true).ready[rule]? = (s.done[rule]?).orElse fun _ => c.ready[rule]? :=
    getElem?_fold_insert s.done c.ready rule
  have handles (rule : RuleId) (h : Handle) (found : s.handleOf c rule = some h) :
      (c.afterSession s true).ready[rule]? = some h := by
    rw [ready]
    unfold Session.handleOf at found
    rw [finished] at found
    cases published : c.ready[rule]? with
    | some h' =>
      rw [published] at found
      cases done : s.done[rule]? with
      | none => exact found
      | some h'' =>
        rw [sound.done rule h'' done] at published
        cases published
    | none =>
      rw [published] at found
      cases done : s.done[rule]? with
      | none =>
        rw [done] at found
        cases found
      | some h'' =>
        rw [done] at found
        exact found
  refine ⟨fun rule h there => ?_, sound.guards⟩
  have found : c.ready[rule]? = some h ∨ s.done[rule]? = some h := by
    rw [ready] at there
    cases done : s.done[rule]? with
    | none =>
      rw [done] at there
      exact .inl there
    | some h' =>
      rw [done] at there
      exact .inr there
  obtain ⟨d, p, entry⟩ := sound.entries rule h found
  exact ⟨d, p, entry.mono rfl rfl (fun _ given => given) handles⟩

/-- A session that failed leaves guards behind. -/
theorem afterSession_failed {s : Session} (sound : c.Sound)
    (kept : Session.KeepsGuards c c.session s) : (c.afterSession s false).Sound := by
  refine ⟨fun rule h ready => ?_, kept.sound⟩
  obtain ⟨d, p, entry⟩ := sound.entries rule h ready
  exact ⟨d, p, entry.mono rfl (kept.same rule h ready) kept.more fun _ _ found => found⟩

/-- A request keeps a cache sound. The grammar and the types stay. -/
theorem get_sound (sound : c.Sound) (rule : RuleId) :
    (c.get rule).2.Sound ∧ (c.get rule).2.grammar = c.grammar ∧
      (c.get rule).2.model = c.model := by
  unfold get
  cases c.ready[rule]? with
  | some h => exact ⟨sound, rfl, rfl⟩
  | none =>
    cases c.failed[rule]? with
    | some e => exact ⟨sound, rfl, rfl⟩
    | none =>
      have kept := Session.resolve_keeps (c.grammar.size + 1) rule (session_sound sound)
      change Session.Keeps _ _ _
        ((Session.resolve c (c.grammar.size + 1) rule).run c.session) at kept
      dsimp only
      generalize (Session.resolve c (c.grammar.size + 1) rule).run c.session = result at kept ⊢
      obtain ⟨_ | h, s⟩ := result
      · exact ⟨afterSession_failed sound kept, rfl, rfl⟩
      · obtain ⟨sound', later, _⟩ := kept
        exact ⟨afterSession_sound sound' later.inProgress, rfl, rfl⟩

/-- What holds of the caches that come about by requests. -/
theorem History.sound {g : Grammar} {model : ObjectModel} (history : History g model c) :
    c.Sound ∧ c.grammar = g ∧ c.model = model := by
  induction history with
  | empty =>
    refine ⟨⟨fun rule h ready => ?_, GuardsSound.empty⟩, rfl, rfl⟩
    simp [RuleCache.empty] at ready
  | get _ rule ih =>
    obtain ⟨sound, rfl, rfl⟩ := ih
    exact get_sound sound rule

/-- A rule that was asked for with success is published. -/
theorem ready_of_get {rule : RuleId} {h : Handle} (sound : c.Sound)
    (obtained : (c.get rule).1 = .ok h) : (c.get rule).2.ready[rule]? = some h := by
  unfold get at obtained ⊢
  cases ready : c.ready[rule]? with
  | some h' =>
    rw [ready] at obtained
    cases obtained
    exact ready
  | none =>
    rw [ready] at obtained
    cases failed : c.failed[rule]? with
    | some e =>
      rw [failed] at obtained
      cases obtained
    | none =>
      rw [failed] at obtained
      have kept := Session.resolve_keeps (c.grammar.size + 1) rule (session_sound sound)
      change Session.Keeps _ _ _
        ((Session.resolve c (c.grammar.size + 1) rule).run c.session) at kept
      dsimp only at obtained ⊢
      generalize (Session.resolve c (c.grammar.size + 1) rule).run c.session = result
        at kept obtained ⊢
      obtain ⟨_ | h', s⟩ := result
      · cases obtained
      · cases obtained
        obtain ⟨sound', later, _, found, _⟩ := kept
        have done : s.done[rule]? = some h := by
          unfold Session.handleOf at found
          rw [ready, later.inProgress] at found
          cases done : s.done[rule]? with
          | none =>
            rw [done] at found
            cases found
          | some h' =>
            rw [done] at found
            exact found
        refine (getElem?_fold_insert s.done c.ready rule).trans ?_
        rw [done]
        rfl

/-- A request for a rule that is published changes nothing. -/
theorem get_of_ready {rule : RuleId} {h : Handle} (ready : c.ready[rule]? = some h) :
    c.get rule = (.ok h, c) := by
  rw [get, ready]

/-! ### First requests -/

/-- The session of the first request of a cache, and what it ends with. -/
def firstSession (g : Grammar) (model : ObjectModel) (rule : RuleId) :
    Except CompileError Handle × Session :=
  Session.resolve (empty g model) (g.size + 1) rule (empty g model).session

/-- What the session of a first request compiles is published. -/
theorem get_empty {g : Grammar} {model : ObjectModel} {rule : RuleId} {h : Handle}
    (resolved : (firstSession g model rule).1 = .ok h) :
    ((empty g model).get rule).1 = .ok h ∧
      ((empty g model).get rule).2.arena = (firstSession g model rule).2.arena ∧
      ((empty g model).get rule).2.guards = (firstSession g model rule).2.guards ∧
      ∀ other : RuleId, ((empty g model).get rule).2.ready[other]? =
        (firstSession g model rule).2.done[other]? := by
  have got : (empty g model).get rule =
      (.ok h, (empty g model).afterSession (firstSession g model rule).2 true) := by
    rw [get, show (empty g model).ready[rule]? = none by simp [empty],
      show (empty g model).failed[rule]? = none by simp [empty]]
    dsimp only
    rw [show (Session.resolve (empty g model) ((empty g model).grammar.size + 1) rule).run
      (empty g model).session = firstSession g model rule from rfl]
    generalize firstSession g model rule = ended at resolved ⊢
    obtain ⟨outcome, s⟩ := ended
    cases resolved
    rfl
  rw [got]
  refine ⟨rfl, rfl, rfl, fun other => (getElem?_fold_insert _ _ other).trans ?_⟩
  simp [empty]

end RuleCache

/-! ### A grammar with one rule -/

/-- One rule, for the letter a. -/
def letterDraft : GrammarDraft :=
  GrammarDraft.empty.add (some "letter") (some (.charSet ['a'] false))

/-- The grammar of that rule. -/
def letterGrammar : Grammar := ⟨#[⟨some "letter", .charSet ['a'] false, false⟩], #[.char]⟩

/-- The draft of the letter builds. -/
theorem letter_built : letterDraft.build = .ok letterGrammar := by cbv

/-- The program of that rule. -/
def letterProgram : Program where
  name := "letter"
  rule := ⟨0⟩
  code := #[.peekChar ⟨0⟩, .jumpIf .lt ⟨0⟩ (.imm 0) ⟨0⟩, .jumpIf .eq ⟨0⟩ (.imm 97) ⟨1⟩, .jump ⟨0⟩,
    .advance 1, .ret true, .ret false]
  labels := #[some 6, some 4]
  intSlots := 1
  objSlots := 0
  consts := #[]
  callees := #[]
  output := .char
  result := some (.int ⟨0⟩)
  concrete := true
  traced := true
  recursion := .none

/-- The cache before that rule is asked for. -/
def letterCache : RuleCache := .empty letterGrammar RecordModel.empty.toObjectModel

/-- The request for that rule. -/
theorem letter_get [RegexEngine] : (letterCache.get ⟨0⟩).1 = .ok ⟨0⟩ ∧
    (letterCache.get ⟨0⟩).2.arena = #[⟨⟨0⟩, "letter", some letterProgram⟩] ∧
    (letterCache.get ⟨0⟩).2.guards = ∅ := by
  have resolved : (RuleCache.firstSession letterGrammar RecordModel.empty.toObjectModel ⟨0⟩).1 =
      .ok ⟨0⟩ := by cbv
  obtain ⟨handle, arena, guards, _⟩ := RuleCache.get_empty resolved
  exact ⟨handle, arena.trans (by cbv), guards.trans (by cbv)⟩

/-- The rule is published once it was asked for. -/
theorem letter_ready [RegexEngine] : (letterCache.get ⟨0⟩).2.ready[(⟨0⟩ : RuleId)]? = some ⟨0⟩ :=
  RuleCache.ready_of_get (RuleCache.History.empty : letterCache.History letterGrammar _).sound.1
    letter_get.1

/-! ### A grammar with a repetition -/

/-- The letter a, and texts of some of them with such a letter between each two. -/
def lettersDraft : GrammarDraft :=
  letterDraft.add (some "letters") (some (.repetition ⟨0⟩ (some ⟨0⟩) 1 none .text))

/-- The grammar of these rules. -/
def lettersGrammar : Grammar :=
  ⟨#[⟨some "letter", .charSet ['a'] false, false⟩,
    ⟨some "letters", .repetition ⟨0⟩ (some ⟨0⟩) 1 none .text, false⟩], #[.char, .text]⟩

/-- The draft of the repetition builds. -/
theorem letters_built : lettersDraft.build = .ok lettersGrammar := by cbv

/-- The program of the repetition. -/
def lettersProgram (callee : Callee) : Program where
  name := "letters"
  rule := ⟨1⟩
  code := #[.savePos ⟨0⟩, .loadImm ⟨1⟩ 0, .textNew ⟨0⟩, .savePos ⟨2⟩,
    .jumpIf .eq ⟨1⟩ (.imm 0) ⟨2⟩, .call ⟨0⟩ none none ⟨4⟩,
    .call ⟨0⟩ none (some (.int ⟨3⟩)) ⟨3⟩, .textPushChar ⟨0⟩ ⟨3⟩, .addImm ⟨1⟩ 1, .savePos ⟨4⟩,
    .jumpIf .eq ⟨4⟩ (.slot ⟨2⟩) ⟨5⟩, .jump ⟨1⟩, .restorePos ⟨2⟩, .jumpIf .lt ⟨1⟩ (.imm 1) ⟨0⟩,
    .ret true, .restorePos ⟨0⟩, .ret false]
  labels := #[some 15, some 3, some 6, some 12, some 13, some 14]
  intSlots := 5
  objSlots := 1
  consts := #[]
  callees := #[callee]
  output := .text
  result := some (.obj ⟨0⟩)
  concrete := true
  traced := true
  recursion := .none

/-- The cache before these rules are asked for. -/
def lettersCache : RuleCache := .empty lettersGrammar RecordModel.empty.toObjectModel

set_option maxRecDepth 2000 in
/-- The request for the repetition. -/
theorem letters_get [RegexEngine] : (lettersCache.get ⟨1⟩).1 = .ok ⟨0⟩ ∧
    (lettersCache.get ⟨1⟩).2.arena = #[⟨⟨1⟩, "letters", some (lettersProgram ⟨⟨0⟩, some ⟨1⟩⟩)⟩,
      ⟨⟨0⟩, "letter", some letterProgram⟩] := by
  have resolved : (RuleCache.firstSession lettersGrammar RecordModel.empty.toObjectModel ⟨1⟩).1 =
      .ok ⟨0⟩ := by cbv
  obtain ⟨handle, arena, _⟩ := RuleCache.get_empty resolved
  exact ⟨handle, arena.trans (by cbv)⟩

/-! ### A grammar with two rules -/

/-- Two rules, each of which matches where the other one does not. -/
def contraryDraft : GrammarDraft :=
  (GrammarDraft.empty.add (some "one") (some (.not ⟨1⟩))).add (some "other") (some (.not ⟨0⟩))

/-- The grammar of these rules. -/
def contraryGrammar : Grammar :=
  ⟨#[⟨some "one", .not ⟨1⟩, false⟩, ⟨some "other", .not ⟨0⟩, false⟩], #[.void, .void]⟩

/-- The draft of the two rules builds. -/
theorem contrary_built : contraryDraft.build = .ok contraryGrammar := by cbv

/-- The program of a rule that matches where another one does not. -/
def notProgram (name : String) (rule : RuleId) (callee : Callee) (recursion : RecursionCheck) :
    Program where
  name := name
  rule := rule
  code := #[.savePos ⟨0⟩, .call ⟨0⟩ none none ⟨0⟩, .restorePos ⟨0⟩, .ret false, .ret true]
  labels := #[some 4]
  intSlots := 1
  objSlots := 0
  consts := #[]
  callees := #[callee]
  output := .void
  result := none
  concrete := false
  traced := true
  recursion := recursion

/-- The cache before these rules are asked for. -/
def contraryCache : RuleCache := .empty contraryGrammar RecordModel.empty.toObjectModel

/-- The request for the one rule. -/
theorem contrary_get_one [RegexEngine] : (contraryCache.get ⟨0⟩).1 = .ok ⟨0⟩ ∧
    (contraryCache.get ⟨0⟩).2.arena =
      #[⟨⟨0⟩, "one", some (notProgram "one" ⟨0⟩ ⟨⟨1⟩, some ⟨1⟩⟩ (.bit 0))⟩,
        ⟨⟨1⟩, "other", some (notProgram "other" ⟨1⟩ ⟨⟨0⟩, some ⟨0⟩⟩ .none)⟩] ∧
    (contraryCache.get ⟨0⟩).2.ready[(⟨1⟩ : RuleId)]? = some ⟨1⟩ := by
  have resolved : (RuleCache.firstSession contraryGrammar RecordModel.empty.toObjectModel ⟨0⟩).1 =
      .ok ⟨0⟩ := by cbv
  obtain ⟨handle, arena, _, ready⟩ := RuleCache.get_empty resolved
  exact ⟨handle, arena.trans (by cbv), (ready ⟨1⟩).trans (by cbv)⟩

/-- The request for the other rule. -/
theorem contrary_get_other [RegexEngine] : (contraryCache.get ⟨1⟩).1 = .ok ⟨0⟩ ∧
    (contraryCache.get ⟨1⟩).2.arena =
      #[⟨⟨1⟩, "other", some (notProgram "other" ⟨1⟩ ⟨⟨0⟩, some ⟨1⟩⟩ (.bit 0))⟩,
        ⟨⟨0⟩, "one", some (notProgram "one" ⟨0⟩ ⟨⟨1⟩, some ⟨0⟩⟩ .none)⟩] ∧
    (contraryCache.get ⟨1⟩).2.ready[(⟨0⟩ : RuleId)]? = some ⟨1⟩ := by
  have resolved : (RuleCache.firstSession contraryGrammar RecordModel.empty.toObjectModel ⟨1⟩).1 =
      .ok ⟨0⟩ := by cbv
  obtain ⟨handle, arena, _, ready⟩ := RuleCache.get_empty resolved
  exact ⟨handle, arena.trans (by cbv), (ready ⟨0⟩).trans (by cbv)⟩

/-- The cache after the request for either rule. -/
theorem contrary_history [RegexEngine] (rule : RuleId) :
    (contraryCache.get rule).2.History contraryGrammar RecordModel.empty.toObjectModel :=
  .get .empty rule

/-- The one rule is published once it was asked for. -/
theorem contrary_ready [RegexEngine] :
    (contraryCache.get ⟨0⟩).2.ready[(⟨0⟩ : RuleId)]? = some ⟨0⟩ :=
  RuleCache.ready_of_get (RuleCache.History.empty : contraryCache.History contraryGrammar _).sound.1
    contrary_get_one.1

/-! ### An engine -/

/-- The letter a as a regular expression. -/
def letterRegex : Regex where
  text := Regex.anchored "a"
  find searched := if Text.charAt? searched 0 = some 'a' then some ⟨0, 1⟩ else none
  find_isBoundary searched found h := by
    split at h
    case isTrue here =>
      obtain ⟨_, _, s⟩ := Text.split_of_charAt? here
      cases h
      exact s.next.isBoundary
    case isFalse => cases h

/-- An engine that knows no other regular expression. -/
abbrev letterEngine : RegexEngine where
  compile text :=
    if text = Regex.anchored "a" then .ok letterRegex else .error "not the letter a"

/-! ### A grammar with a regular expression -/

/-- The letter a, the end of the text, and texts between two letters a: such a text may be between
them again, or the letter, or nothing at the end of the text. -/
def nestedDraft : GrammarDraft :=
  (((GrammarDraft.empty.add (some "letter") (some (.regex "a"))).add (some "nested")
    (some (.alternative none [⟨2⟩, ⟨0⟩, ⟨3⟩]))).add (some "wrapped")
      (some (.surround ⟨0⟩ ⟨1⟩ none))).add (some "end") (some .eoi)

/-- The grammar of these rules. -/
def nestedGrammar : Grammar :=
  ⟨#[⟨some "letter", .regex "a", false⟩,
    ⟨some "nested", .alternative none [⟨2⟩, ⟨0⟩, ⟨3⟩], false⟩,
    ⟨some "wrapped", .surround ⟨0⟩ ⟨1⟩ none, false⟩, ⟨some "end", .eoi, false⟩],
    #[.text, .any, .any, .void]⟩

/-- The draft of these rules builds. -/
theorem nested_built : nestedDraft.build = .ok nestedGrammar := by cbv

/-- The program of the letter. -/
def patternProgram : Program where
  name := "letter"
  rule := ⟨0⟩
  code := #[.invoke (.matchRegex ⟨0⟩) [] (some (.obj ⟨0⟩)) ⟨0⟩, .ret true, .ret false]
  labels := #[some 2]
  intSlots := 0
  objSlots := 1
  consts := #[.regex letterRegex]
  callees := #[]
  output := .text
  result := some (.obj ⟨0⟩)
  concrete := true
  traced := true
  recursion := .none

/-- The program of the alternative. -/
def nestedProgram (wrapped letter : Option Handle) (recursion : RecursionCheck) : Program where
  name := "nested"
  rule := ⟨1⟩
  code := #[.call ⟨0⟩ none (some (.obj ⟨0⟩)) ⟨1⟩, .jump ⟨0⟩, .call ⟨1⟩ none (some (.obj ⟨0⟩)) ⟨2⟩,
    .jump ⟨0⟩, .call ⟨2⟩ none none ⟨3⟩, .loadConst ⟨0⟩ ⟨0⟩, .jump ⟨0⟩, .ret false, .ret true]
  labels := #[some 8, some 2, some 4, some 7]
  intSlots := 0
  objSlots := 1
  consts := #[.value .null]
  callees := #[⟨⟨2⟩, wrapped⟩, ⟨⟨0⟩, letter⟩, ⟨⟨3⟩, some ⟨3⟩⟩]
  output := .any
  result := some (.obj ⟨0⟩)
  concrete := false
  traced := true
  recursion := recursion

/-- The program of a text between two letters. -/
def wrappedProgram (letter nested : Option Handle) (recursion : RecursionCheck) : Program where
  name := "wrapped"
  rule := ⟨2⟩
  code := #[.savePos ⟨0⟩, .call ⟨0⟩ none none ⟨0⟩, .call ⟨1⟩ none (some (.obj ⟨0⟩)) ⟨0⟩,
    .call ⟨0⟩ none none ⟨0⟩, .ret true, .restorePos ⟨0⟩, .ret false]
  labels := #[some 5]
  intSlots := 1
  objSlots := 1
  consts := #[]
  callees := #[⟨⟨0⟩, letter⟩, ⟨⟨1⟩, nested⟩]
  output := .any
  result := some (.obj ⟨0⟩)
  concrete := true
  traced := true
  recursion := recursion

/-- The program of the end of the text. -/
def endProgram : Program where
  name := "end"
  rule := ⟨3⟩
  code := #[.peekChar ⟨0⟩, .jumpIf .ge ⟨0⟩ (.imm 0) ⟨0⟩, .ret true, .ret false]
  labels := #[some 3]
  intSlots := 1
  objSlots := 0
  consts := #[]
  callees := #[]
  output := .void
  result := none
  concrete := true
  traced := true
  recursion := .none

section

attribute [local instance] letterEngine

/-- The cache before these rules are asked for. -/
def nestedCache : RuleCache := .empty nestedGrammar RecordModel.empty.toObjectModel

/-- The request for the alternative, which closes the cycle and has a guard. -/
theorem nested_get : (nestedCache.get ⟨1⟩).1 = .ok ⟨0⟩ ∧
    (nestedCache.get ⟨1⟩).2.arena =
      #[⟨⟨1⟩, "nested", some (nestedProgram (some ⟨1⟩) (some ⟨2⟩) (.bit 0))⟩,
        ⟨⟨2⟩, "wrapped", some (wrappedProgram (some ⟨2⟩) (some ⟨0⟩) .none)⟩,
        ⟨⟨0⟩, "letter", some patternProgram⟩, ⟨⟨3⟩, "end", some endProgram⟩] ∧
    (nestedCache.get ⟨1⟩).2.guards = (∅ : Guards).insert ⟨1⟩ (.bit 0) := by
  have resolved : (RuleCache.firstSession nestedGrammar RecordModel.empty.toObjectModel ⟨1⟩).1 =
      .ok ⟨0⟩ := by cbv
  obtain ⟨handle, arena, guards, _⟩ := RuleCache.get_empty resolved
  exact ⟨handle, arena.trans (by cbv), guards.trans (by cbv)⟩

/-- The request for the text between two letters, which closes the cycle here. -/
theorem wrapped_get : (nestedCache.get ⟨2⟩).1 = .ok ⟨0⟩ ∧
    (nestedCache.get ⟨2⟩).2.arena =
      #[⟨⟨2⟩, "wrapped", some (wrappedProgram (some ⟨1⟩) (some ⟨2⟩) (.bit 0))⟩,
        ⟨⟨0⟩, "letter", some patternProgram⟩,
        ⟨⟨1⟩, "nested", some (nestedProgram (some ⟨0⟩) (some ⟨1⟩) .none)⟩,
        ⟨⟨3⟩, "end", some endProgram⟩] ∧
    (nestedCache.get ⟨2⟩).2.guards = (∅ : Guards).insert ⟨2⟩ (.bit 0) ∧
    (nestedCache.get ⟨2⟩).2.ready[(⟨1⟩ : RuleId)]? = some ⟨2⟩ := by
  have resolved : (RuleCache.firstSession nestedGrammar RecordModel.empty.toObjectModel ⟨2⟩).1 =
      .ok ⟨0⟩ := by cbv
  obtain ⟨handle, arena, guards, ready⟩ := RuleCache.get_empty resolved
  exact ⟨handle, arena.trans (by cbv), guards.trans (by cbv), (ready ⟨1⟩).trans (by cbv)⟩

/-- The cache after the request for any of them. -/
theorem nested_history (rule : RuleId) :
    (nestedCache.get rule).2.History nestedGrammar RecordModel.empty.toObjectModel :=
  .get .empty rule

/-- The alternative is published once it was asked for. -/
theorem nested_ready : (nestedCache.get ⟨1⟩).2.ready[(⟨1⟩ : RuleId)]? = some ⟨0⟩ :=
  RuleCache.ready_of_get (RuleCache.History.empty : nestedCache.History nestedGrammar _).sound.1
    nested_get.1

end

end Packrat
