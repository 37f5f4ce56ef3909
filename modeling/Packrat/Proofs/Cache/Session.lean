import Packrat.Proofs.Cache

/-!
# Sessions step by step

A session changes in four ways: a rule that is not known yet begins, a rule that is met again while
it is in progress gets a guard, and the innermost rule in progress is done or fails. What holds of
all sessions is shown for each of these changes; whole requests are chains of them.

* `Requests`: a rule asks for another one.
* `Session.Moves`: one change of a session. `Session.During`: the sessions that changes lead to.
* `Session.Orderly`: what holds of the rules in progress.
* `RuleCache.Got`: how a request of a cache ends. `RuleCache.getAll`: requests one after another.

Main statements: `Session.During.orderly`, `Session.resolve_settles` and `RuleCache.get_got`.
-/

namespace Packrat

namespace Session

variable {s : Session} {rule : RuleId} {h : Handle}

/-! ## Parts of a session -/

/-- A look-up among the rules in progress finds an entry. -/
theorem mem_of_lookup (progress : s.inProgress.lookup rule = some h) :
    (rule, h) ∈ s.inProgress := by
  obtain ⟨_, _, split, _⟩ := List.lookup_eq_some_iff.mp progress
  rw [split]
  exact List.mem_append_right _ List.mem_cons_self

/-- A look-up that finds nothing shows that the rule is not in progress. -/
theorem ne_of_lookup (idle : s.inProgress.lookup rule = none) :
    ∀ entry ∈ s.inProgress, entry.1 ≠ rule := by
  rintro entry member rfl
  simpa using List.lookup_eq_none_iff.mp idle entry member

/-- The matcher of a rule that is done. -/
theorem get?_of_resolve {arena arena' : Arena} {name : String} {p : Program}
    (there : arena.get? h = some (.declare rule name)) (resolved : arena.resolve h p = .ok arena') :
    arena'.get? h = some ⟨rule, name, some p⟩ := by
  unfold Arena.resolve at resolved
  rw [there] at resolved
  cases resolved
  have inside : h.index < arena.size := (Array.getElem?_eq_some_iff.mp there).1
  exact Array.getElem?_setIfInBounds_self_of_lt inside

/-- The matcher of a rule in progress takes a program. -/
theorem exists_resolve {arena : Arena} {name : String}
    (there : arena.get? h = some (.declare rule name)) (p : Program) :
    ∃ arena', arena.resolve h p = .ok arena' := by
  unfold Arena.resolve
  rw [there]
  exact ⟨_, rfl⟩

/-- How a rule gets a guard: it has one, or a bit is left for it, or it is given a walk. -/
theorem giveGuard_cases (s : Session) (rule : RuleId) :
    s.guards.contains rule = true ∧ s.giveGuard rule = s ∨
    s.guards.contains rule = false ∧ s.nextBit < 64 ∧ s.giveGuard rule =
      { s with guards := s.guards.insert rule (.bit s.nextBit), nextBit := s.nextBit + 1 } ∨
    s.guards.contains rule = false ∧ 64 ≤ s.nextBit ∧
      s.giveGuard rule = { s with guards := s.guards.insert rule .walk } := by
  unfold giveGuard
  split
  case isTrue given => exact .inl ⟨given, rfl⟩
  case isFalse new =>
    have new := Bool.eq_false_of_not_eq_true new
    split
    case isTrue free => exact .inr (.inl ⟨new, free, rfl⟩)
    case isFalse full => exact .inr (.inr ⟨new, Nat.le_of_not_lt full, rfl⟩)

/-- Guards that are given concern nothing else. -/
theorem giveGuard_eq (s : Session) (rule : RuleId) :
    ∃ guards nextBit, s.giveGuard rule = { s with guards, nextBit } := by
  obtain ⟨_, same⟩ | ⟨_, _, same⟩ | ⟨_, _, same⟩ := s.giveGuard_cases rule
  · exact ⟨s.guards, s.nextBit, same⟩
  · exact ⟨_, _, same⟩
  · exact ⟨_, s.nextBit, same⟩

end Session

/-! ## Requests -/

variable [RegexEngine] {g : Grammar} {model : ObjectModel}

/-- A rule asks for another one while it is lowered. -/
def Requests (g : Grammar) (model : ObjectModel) (rule child : RuleId) : Prop :=
  child ∈ (lowerRule g model rule).requests

/-- Only rules of the grammar ask for others. -/
theorem Requests.lt_size {rule child : RuleId} (requests : Requests g model rule child) :
    rule.index < g.size := by
  have found : g.get? rule ≠ none := by
    intro absent
    unfold Requests lowerRule at requests
    rw [absent] at requests
    cases requests
  exact (Array.getElem?_eq_some_iff.mp (Option.ne_none_iff_exists'.mp found).choose_spec).1

namespace Session

variable {c : RuleCache} {s s' s'' : Session} {rule other : RuleId} {h : Handle}

/-! ## Changes -/

/-- The session in which the innermost rule in progress has failed. -/
def failing (s : Session) (rule : RuleId) (e : CompileError) : Session :=
  { s with failed := s.failed.insert rule e, inProgress := s.inProgress.tail }

/-- The innermost rule in progress asks for a rule; if there is none, any rule may be asked for. -/
def Asked (c : RuleCache) (s : Session) (rule : RuleId) : Prop :=
  ∀ entry ∈ s.inProgress.head?, Requests c.grammar c.model entry.1 rule

/-- A rule has to fail: by itself, or because it asks for a rule that failed. -/
def Blamed (c : RuleCache) (s : Session) (rule : RuleId) (e : CompileError) : Prop :=
  (lowerRule c.grammar c.model rule).result = .error e ∨
    ∃ child, Requests c.grammar c.model rule child ∧ s.failed[child]? = some e

/-- One change of a session. -/
inductive Moves (c : RuleCache) : Session → Session → Prop where
  /-- A rule begins. -/
  | begin {s : Session} {rule : RuleId} (asked : Asked c s rule) (ready : c.ready[rule]? = none)
      (done : s.done[rule]? = none) (failed : s.failed[rule]? = none)
      (idle : s.inProgress.lookup rule = none) : Moves c s (begin c s rule)
  /-- A rule that is in progress gets a guard. -/
  | guard {s : Session} {rule : RuleId} {h : Handle} (asked : Asked c s rule)
      (progress : s.inProgress.lookup rule = some h) : Moves c s (s.giveGuard rule)
  /-- The innermost rule in progress is done. -/
  | finish {s : Session} {rule : RuleId} {h : Handle} {rest : List (RuleId × Handle)} {p : Program}
      {arena : Arena} (progress : s.inProgress = (rule, h) :: rest)
      (answered : ∀ child, Requests c.grammar c.model rule child →
        ∃ h', s.handleOf c child = some h')
      (lowered : (lowerRule c.grammar c.model rule).result = .ok p)
      (resolved : s.arena.resolve h
        { p.link (s.handleOf c) with recursion := (s.guards[rule]?).getD .none } = .ok arena) :
      Moves c s (s.finished arena rule h)
  /-- The innermost rule in progress fails. -/
  | fail {s : Session} {rule : RuleId} {h : Handle} {rest : List (RuleId × Handle)}
      {e : CompileError} (progress : s.inProgress = (rule, h) :: rest)
      (blamed : Blamed c s rule e) : Moves c s (s.failing rule e)

/-- The sessions of a request of a cache. -/
abbrev During (c : RuleCache) : Session → Prop :=
  Relation.ReflTransGen (Moves c) c.session

/-! ## Rules in progress -/

/-- What holds of the rules in progress: each one but the outermost is asked for by the next one,
they differ, their matchers have no programs yet, and nothing else is known about them. Rules that
are done were not published before. -/
structure Orderly (c : RuleCache) (s : Session) : Prop where
  chain : s.inProgress.IsChain fun inner outer => Requests c.grammar c.model outer.1 inner.1
  nodup : (s.inProgress.map Prod.fst).Nodup
  unfilled : ∀ entry ∈ s.inProgress,
    s.arena.get? entry.2 = some (.declare entry.1 (c.grammar.displayName entry.1))
  idle : ∀ entry ∈ s.inProgress,
    c.ready[entry.1]? = none ∧ s.done[entry.1]? = none ∧ s.failed[entry.1]? = none
  done : ∀ (rule : RuleId) (h : Handle), s.done[rule]? = some h → c.ready[rule]? = none

/-- A session starts in order. -/
theorem orderly_session (c : RuleCache) : c.session.Orderly c where
  chain := .nil
  nodup := .nil
  unfilled := by simp [RuleCache.session]
  idle := by simp [RuleCache.session]
  done := by simp [RuleCache.session]

/-- The rules in progress below the innermost one. -/
theorem Orderly.rest (orderly : s.Orderly c) {rest : List (RuleId × Handle)}
    (progress : s.inProgress = (rule, h) :: rest) :
    rest.IsChain (fun inner outer => Requests c.grammar c.model outer.1 inner.1) ∧
      (rest.map Prod.fst).Nodup ∧ ∀ entry ∈ rest, entry ∈ s.inProgress ∧ entry.1 ≠ rule := by
  obtain ⟨chain, nodup, _⟩ := orderly
  rw [progress] at chain nodup ⊢
  obtain ⟨fresh, nodup⟩ := List.nodup_cons.mp nodup
  refine ⟨chain.tail, nodup, fun entry member => ⟨List.mem_cons_of_mem _ member, ?_⟩⟩
  rintro rfl
  exact fresh (List.mem_map.mpr ⟨entry, member, rfl⟩)

/-- Matchers that have their programs keep them. -/
theorem Moves.filled (moves : Moves c s s') {m : Matcher} (there : s.arena.get? h = some m)
    (filled : m.program? ≠ none) : s'.arena.get? h = some m := by
  cases moves with
  | begin => exact get?_declare there
  | guard =>
    unfold giveGuard
    split
    · exact there
    · split <;> exact there
  | @finish _ h' _ _ _ _ _ _ resolved =>
    obtain ⟨missing, _, others⟩ := program_of_resolve resolved
    refine (others h ?_).trans there
    rintro rfl
    rw [there] at missing
    exact filled missing
  | fail => exact there

/-- One matcher belongs to one rule. -/
theorem Orderly.rule_unique (orderly : s.Orderly c) {entry entry' : RuleId × Handle}
    (member : entry ∈ s.inProgress) (member' : entry' ∈ s.inProgress)
    (same : entry.2 = entry'.2) : entry.1 = entry'.1 := by
  have there := orderly.unfilled entry member
  rw [same, orderly.unfilled entry' member'] at there
  exact (congrArg Matcher.rule (Option.some.inj there)).symm

/-- A rule that begins is the innermost one in progress. -/
theorem Orderly.begin (orderly : s.Orderly c) (asked : Asked c s rule)
    (ready : c.ready[rule]? = none) (done : s.done[rule]? = none) (failed : s.failed[rule]? = none)
    (idle : s.inProgress.lookup rule = none) : (begin c s rule).Orderly c := by
  refine ⟨List.isChain_cons.mpr ⟨asked, orderly.chain⟩, ?_, ?_, ?_, orderly.done⟩
  · refine List.nodup_cons.mpr ⟨fun member => ?_, orderly.nodup⟩
    obtain ⟨entry, member, same⟩ := List.mem_map.mp member
    exact ne_of_lookup idle entry member same
  · intro entry member
    rcases List.mem_cons.mp member with rfl | member
    · exact Array.getElem?_push_size
    · exact get?_declare (orderly.unfilled entry member)
  · intro entry member
    rcases List.mem_cons.mp member with rfl | member
    · exact ⟨ready, done, failed⟩
    · exact orderly.idle entry member

/-- Guards do not concern the rules in progress. -/
theorem Orderly.giveGuard (orderly : s.Orderly c) (rule : RuleId) :
    (s.giveGuard rule).Orderly c := by
  obtain ⟨guards, nextBit, same⟩ := giveGuard_eq s rule
  rw [same]
  exact ⟨orderly.chain, orderly.nodup, orderly.unfilled, orderly.idle, orderly.done⟩

/-- The innermost rule in progress is done, and the others are not touched. -/
theorem Orderly.finished (orderly : s.Orderly c) {rest : List (RuleId × Handle)} {p : Program}
    {arena : Arena} (progress : s.inProgress = (rule, h) :: rest)
    (resolved : s.arena.resolve h p = .ok arena) : (s.finished arena rule h).Orderly c := by
  obtain ⟨chain, nodup, others⟩ := orderly.rest progress
  have innermost : (rule, h) ∈ s.inProgress := progress ▸ List.mem_cons_self
  obtain ⟨_, _, untouched⟩ := program_of_resolve resolved
  have tail : (s.finished arena rule h).inProgress = rest := congrArg List.tail progress
  refine ⟨tail ▸ chain, tail ▸ nodup, ?_, ?_, ?_⟩
  · rw [tail]
    intro entry member
    obtain ⟨inside, differs⟩ := others entry member
    exact (untouched entry.2 fun same => differs (orderly.rule_unique inside innermost same)).trans
      (orderly.unfilled entry inside)
  · rw [tail]
    intro entry member
    obtain ⟨inside, differs⟩ := others entry member
    obtain ⟨ready, undone, unfailed⟩ := orderly.idle entry inside
    exact ⟨ready, (done_finished differs.symm).trans undone, unfailed⟩
  · intro other h' found
    by_cases same : rule = other
    · exact same ▸ (orderly.idle _ innermost).1
    · exact orderly.done other h' ((done_finished same).symm.trans found)

/-- The innermost rule in progress has failed, and the others are not touched. -/
theorem Orderly.failing (orderly : s.Orderly c) {rest : List (RuleId × Handle)}
    (progress : s.inProgress = (rule, h) :: rest) (e : CompileError) :
    (s.failing rule e).Orderly c := by
  obtain ⟨chain, nodup, others⟩ := orderly.rest progress
  have tail : (s.failing rule e).inProgress = rest := congrArg List.tail progress
  refine ⟨tail ▸ chain, tail ▸ nodup, ?_, ?_, orderly.done⟩
  · rw [tail]
    exact fun entry member => orderly.unfilled entry (others entry member).1
  · rw [tail]
    intro entry member
    obtain ⟨inside, differs⟩ := others entry member
    obtain ⟨ready, undone, unfailed⟩ := orderly.idle entry inside
    refine ⟨ready, undone, ?_⟩
    rw [Session.failing, Std.HashMap.getElem?_insert, if_neg (by simpa using differs.symm)]
    exact unfailed

/-- Every change keeps the rules in progress in order. -/
theorem Moves.orderly (moves : Moves c s s') (orderly : s.Orderly c) : s'.Orderly c := by
  cases moves with
  | begin asked ready done failed idle => exact orderly.begin asked ready done failed idle
  | @guard rule => exact orderly.giveGuard rule
  | finish progress _ _ resolved => exact orderly.finished progress resolved
  | @fail _ _ _ e progress => exact orderly.failing progress e

/-- A session is in order at all times. -/
theorem During.orderly (during : During c s) : s.Orderly c := by
  induction during with
  | refl => exact orderly_session c
  | tail _ moves ih => exact moves.orderly ih

/-- The rules in progress ask for rules one by one, down to the innermost one. -/
theorem Orderly.asks (orderly : s.Orderly c) (asked : Asked c s rule) :
    ∀ entry ∈ s.inProgress,
      Relation.TransGen (Requests c.grammar c.model) entry.1 rule := by
  have chain := orderly.chain
  unfold Asked at asked
  generalize s.inProgress = entries at chain asked
  induction entries generalizing rule with
  | nil => simp
  | cons innermost rest ih =>
    obtain ⟨below, chain⟩ := List.isChain_cons.mp chain
    have asks : Requests c.grammar c.model innermost.1 rule := asked innermost rfl
    intro entry member
    rcases List.mem_cons.mp member with rfl | member
    · exact .single asks
    · exact .tail (ih chain below entry member) asks

/-- Fewer rules are in progress than the grammar has, or as many, if one of them asks for more. -/
theorem Orderly.length_le (orderly : s.Orderly c) (asked : Asked c s rule) :
    s.inProgress.length ≤ c.grammar.size := by
  have inside : (s.inProgress.map fun entry => entry.1.index) ⊆ List.range c.grammar.size := by
    intro index member
    obtain ⟨entry, inside, rfl⟩ := List.mem_map.mp member
    obtain ⟨_, requests, _⟩ := Relation.TransGen.head'_iff.mp (orderly.asks asked entry inside)
    exact List.mem_range.mpr requests.lt_size
  have nodup : (s.inProgress.map fun entry => entry.1.index).Nodup := by
    have map : (s.inProgress.map fun entry => entry.1.index) =
        (s.inProgress.map Prod.fst).map RuleId.index := by
      rw [List.map_map]
      rfl
    rw [map]
    refine orderly.nodup.map fun rule rule' same => ?_
    cases rule
    cases rule'
    exact congrArg RuleId.mk same
  have le := (List.subperm_of_subset nodup inside).length_le
  rwa [List.length_map, List.length_range] at le

/-! ## Requests -/

/-- What a change does to the rules that are done: nothing, or one of the rules in progress is done,
its matcher has a program, and the rules that it asks for have matchers. -/
theorem Moves.done_cases (orderly : s.Orderly c) (moves : Moves c s s')
    (found : s'.done[rule]? = some h) : s.done[rule]? = some h ∨
      (rule, h) ∈ s.inProgress ∧
        (∃ p, s'.arena.get? h = some ⟨rule, c.grammar.displayName rule, some p⟩) ∧
        ∀ child, Requests c.grammar c.model rule child → ∃ h', s.handleOf c child = some h' := by
  cases moves with
  | begin => exact .inl found
  | @guard other =>
    obtain ⟨guards, nextBit, same⟩ := giveGuard_eq s other
    rw [same] at found
    exact .inl found
  | @finish other h' _ _ _ progress answered _ resolved =>
    rw [finished, Std.HashMap.getElem?_insert] at found
    split at found
    case isTrue same =>
      cases found
      obtain rfl := eq_of_beq same
      have innermost : (other, h) ∈ s.inProgress := progress ▸ List.mem_cons_self
      have filled := get?_of_resolve (orderly.unfilled _ innermost) resolved
      exact .inr ⟨innermost, ⟨_, filled⟩, answered⟩
    case isFalse => exact .inl found
  | fail => exact .inl found

/-- What a change does to failures: nothing, or one of the rules in progress has to fail. -/
theorem Moves.failed_cases (moves : Moves c s s') : s'.failed = s.failed ∨
    ∃ rule h e, (rule, h) ∈ s.inProgress ∧ s'.done = s.done ∧ Blamed c s rule e ∧
      s'.failed = s.failed.insert rule e := by
  cases moves with
  | begin => exact .inl rfl
  | @guard rule =>
    obtain ⟨guards, nextBit, same⟩ := giveGuard_eq s rule
    exact .inl (by rw [same])
  | finish => exact .inl rfl
  | @fail rule h _ e progress blamed =>
    exact .inr ⟨rule, h, e, progress ▸ List.mem_cons_self, rfl, blamed, rfl⟩

/-- Changes never undo what is done. -/
theorem Moves.done (moves : Moves c s s') (orderly : s.Orderly c)
    (found : s.done[rule]? = some h) : s'.done[rule]? = some h := by
  cases moves with
  | begin => exact found
  | @guard other =>
    obtain ⟨guards, nextBit, same⟩ := giveGuard_eq s other
    rw [same]
    exact found
  | @finish other _ _ _ _ progress =>
    have undone := (orderly.idle _ (progress ▸ List.mem_cons_self)).2.1
    rw [finished, Std.HashMap.getElem?_insert, if_neg ?_]
    · exact found
    · intro same
      rw [eq_of_beq same, found] at undone
      cases undone
  | fail => exact found

/-- What every change keeps, changes keep one after another. -/
theorem Moves.keeps {P : Session → Prop}
    (keeps : ∀ {t t' : Session}, t.Orderly c → Moves c t t' → P t → P t')
    (moves : Relation.ReflTransGen (Moves c) s s') (orderly : s.Orderly c) (holds : P s) :
    s'.Orderly c ∧ P s' := by
  induction moves with
  | refl => exact ⟨orderly, holds⟩
  | tail _ move ih => exact ⟨move.orderly ih.1, keeps ih.1 move ih.2⟩

/-- The matcher of a rule is that of a published rule, of one that is done, or of one in
progress. -/
theorem handleOf_iff (orderly : s.Orderly c) : s.handleOf c rule = some h ↔
    c.ready[rule]? = some h ∨ s.done[rule]? = some h ∨ s.inProgress.lookup rule = some h := by
  have undone := orderly.done rule
  have idle (h : Handle) (progress : s.inProgress.lookup rule = some h) :=
    orderly.idle (rule, h) (mem_of_lookup progress)
  unfold handleOf
  cases ready : c.ready[rule]? <;> cases done : s.done[rule]? <;>
    cases progress : s.inProgress.lookup rule <;> simp_all

/-- Changes after which the same rules are in progress as before. -/
structure Stretch (c : RuleCache) (s s' : Session) : Prop where
  moves : Relation.ReflTransGen (Moves c) s s'
  inProgress : s'.inProgress = s.inProgress

/-- Nothing happens between a session and itself. -/
theorem Stretch.refl (c : RuleCache) (s : Session) : Stretch c s s where
  moves := .refl
  inProgress := rfl

/-- Two stretches of a session in a row are one. -/
theorem Stretch.trans (first : Stretch c s s') (second : Stretch c s' s'') : Stretch c s s'' where
  moves := first.moves.trans second.moves
  inProgress := second.inProgress.trans first.inProgress

/-- A stretch of a session leaves it in order. -/
theorem Stretch.orderly (stretch : Stretch c s s') (orderly : s.Orderly c) : s'.Orderly c :=
  (Moves.keeps (P := fun _ => True) (fun _ _ _ => trivial) stretch.moves orderly trivial).1

/-- Matchers stay. -/
theorem Stretch.handleOf (stretch : Stretch c s s') (orderly : s.Orderly c)
    (found : s.handleOf c rule = some h) : s'.handleOf c rule = some h := by
  have done (done : s.done[rule]? = some h) : s'.done[rule]? = some h :=
    (Moves.keeps (fun orderly move done => move.done orderly done) stretch.moves orderly done).2
  rw [handleOf_iff (stretch.orderly orderly), stretch.inProgress]
  exact ((handleOf_iff orderly).mp found).imp_right fun known => known.imp_left done

/-- Failures stay known. -/
theorem Moves.failed {e : CompileError} (moves : Moves c s s') (orderly : s.Orderly c)
    (found : s.failed[rule]? = some e) : s'.failed[rule]? = some e := by
  obtain unfailed | ⟨other, h, e', progress, _, _, insert⟩ := moves.failed_cases
  · rw [unfailed]
    exact found
  · have unknown := (orderly.idle _ progress).2.2
    rw [insert, Std.HashMap.getElem?_insert, if_neg ?_]
    · exact found
    · intro same
      rw [eq_of_beq same, found] at unknown
      cases unknown

/-- An action changes the session step by step, and comes to what is asked of it or fails. If it
does not fail, no rule does. -/
def Settles (c : RuleCache) (s : Session) {α : Type} (Holds : α → Session → Prop)
    (Fails : CompileError → Session → Prop) : Except CompileError α × Session → Prop
  | (.ok x, s') => Stretch c s s' ∧ s'.failed = s.failed ∧ Holds x s'
  | (.error e, s') => Stretch c s s' ∧ Fails e s'

/-- Requests in order lead to the matchers of all rules, or to a rule that failed, if so it is with
each single request. -/
theorem answer_settles {resolve : RuleId → Action Handle} {depth : Nat}
    (one : ∀ (rule : RuleId) (s : Session), s.Orderly c → Asked c s rule →
      s.inProgress.length = depth → Settles c s (fun h s' => s'.handleOf c rule = some h)
        (fun e s' => s'.failed[rule]? = some e) (resolve rule s))
    (rules : List RuleId) (orderly : s.Orderly c) (asked : ∀ rule ∈ rules, Asked c s rule)
    (length : s.inProgress.length = depth) :
    Settles c s (fun _ s' => ∀ rule ∈ rules, ∃ h, s'.handleOf c rule = some h)
      (fun e s' => ∃ rule ∈ rules, s'.failed[rule]? = some e) (answer resolve rules s) := by
  induction rules generalizing s with
  | nil => exact ⟨.refl c s, rfl, by simp⟩
  | cons rule rest ih =>
    rw [answer_cons]
    have first := one rule s orderly (asked rule List.mem_cons_self) length
    generalize resolve rule s = result at first ⊢
    obtain ⟨e | h, s'⟩ := result
    · exact ⟨first.1, rule, List.mem_cons_self, first.2⟩
    · obtain ⟨stretch, unfailed, found⟩ := first
      have orderly' := stretch.orderly orderly
      have second := ih orderly'
        (fun rule member => by
          unfold Asked
          rw [stretch.inProgress]
          exact asked rule (List.mem_cons_of_mem _ member))
        (by rw [stretch.inProgress, length])
      dsimp only
      generalize answer resolve rest s' = result at second ⊢
      obtain ⟨e | _, s''⟩ := result
      · obtain ⟨stretch', other, member, failed⟩ := second
        exact ⟨stretch.trans stretch', other, List.mem_cons_of_mem _ member, failed⟩
      · obtain ⟨stretch', unfailed', all⟩ := second
        refine ⟨stretch.trans stretch', unfailed'.trans unfailed, fun other member => ?_⟩
        rcases List.mem_cons.mp member with rfl | member
        · exact ⟨h, stretch'.handleOf orderly' found⟩
        · exact all other member

/-- The innermost rule in progress fails. -/
theorem fail_settles {e : CompileError}
    (stretch : Stretch c (begin c s rule) s') (blamed : Blamed c s' rule e)
    (first : Moves c s (begin c s rule)) :
    Settles c s (fun h s' => s'.handleOf c rule = some h) (fun e s' => s'.failed[rule]? = some e)
      (fail rule e s') := by
  have progress : s'.inProgress = (rule, ⟨s.arena.size⟩) :: s.inProgress := stretch.inProgress
  refine ⟨⟨.head first (stretch.moves.tail (.fail progress blamed)), ?_⟩, ?_⟩
  · exact congrArg List.tail progress
  · exact Std.HashMap.getElem?_insert_self

/-- Once everything that it asks for is answered, the rule that began is done, or it fails. -/
theorem compiledNow_settles (orderly : s.Orderly c) (first : Moves c s (begin c s rule))
    {answered : Except CompileError Unit × Session}
    (below : Settles c (begin c s rule)
      (fun _ s' => ∀ child ∈ (lowerRule c.grammar c.model rule).requests,
        ∃ h, s'.handleOf c child = some h)
      (fun e s' => ∃ child ∈ (lowerRule c.grammar c.model rule).requests,
        s'.failed[child]? = some e) answered) :
    Settles c s (fun h s' => s'.handleOf c rule = some h) (fun e s' => s'.failed[rule]? = some e)
      (compiledNow c rule ⟨s.arena.size⟩ answered) := by
  obtain ⟨e | _, s'⟩ := answered
  · obtain ⟨stretch, child, requests, failed⟩ := below
    exact fail_settles stretch (.inr ⟨child, requests, failed⟩) first
  · obtain ⟨stretch, unfailed, answered⟩ := below
    have progress : s'.inProgress = (rule, ⟨s.arena.size⟩) :: s.inProgress := stretch.inProgress
    have orderly' := stretch.orderly (first.orderly orderly)
    rw [compiledNow]
    cases lowered : (lowerRule c.grammar c.model rule).result with
    | error e => exact fail_settles stretch (.inl lowered) first
    | ok p =>
      obtain ⟨arena, resolved⟩ :=
        exists_resolve (orderly'.unfilled _ (progress ▸ List.mem_cons_self))
          { p.link (s'.handleOf c) with recursion := (s'.guards[rule]?).getD .none }
      dsimp only
      rw [complete_eq, resolved]
      have last : Moves c s' (s'.finished arena rule ⟨s.arena.size⟩) :=
        .finish progress answered lowered resolved
      refine ⟨⟨.head first (stretch.moves.tail last), congrArg List.tail progress⟩, unfailed, ?_⟩
      exact (handleOf_iff (last.orderly orderly')).mpr
        (.inr (.inl Std.HashMap.getElem?_insert_self))

/-- A request for a rule changes the session step by step and leads to the matcher of the rule or to
the reason why it failed. The fuel lasts if there is as much of it as there are rules that may still
begin. -/
theorem resolve_settles (fuel : Nat) (rule : RuleId) (orderly : s.Orderly c)
    (asked : Asked c s rule) (enough : c.grammar.size < fuel + s.inProgress.length) :
    Settles c s (fun h s' => s'.handleOf c rule = some h) (fun e s' => s'.failed[rule]? = some e)
      (resolve c fuel rule s) := by
  induction fuel generalizing rule s with
  | zero =>
    have le := orderly.length_le asked
    omega
  | succ fuel ih =>
    rw [resolve_succ]
    cases there : (c.ready[rule]?).orElse fun _ => s.done[rule]? with
    | some h => exact ⟨.refl c s, rfl, handleOf_of_ready there⟩
    | none =>
      cases failed : s.failed[rule]? with
      | some e => exact ⟨.refl c s, failed⟩
      | none =>
        cases progress : s.inProgress.lookup rule with
        | some h =>
          obtain ⟨guards, nextBit, same⟩ := giveGuard_eq s rule
          have stretch : Stretch c s (s.giveGuard rule) :=
            ⟨.single (.guard asked progress), by rw [same]⟩
          have found := (handleOf_iff orderly).mpr (.inr (.inr progress))
          exact ⟨stretch, by rw [same], stretch.handleOf orderly found⟩
        | none =>
          have unknown : c.ready[rule]? = none ∧ s.done[rule]? = none := by simpa using there
          have first : Moves c s (begin c s rule) :=
            .begin asked unknown.1 unknown.2 failed progress
          have one (child : RuleId) (s' : Session) (orderly : s'.Orderly c)
              (asked : Asked c s' child) (length : s'.inProgress.length = s.inProgress.length + 1) :
              Settles c s' (fun h s'' => s''.handleOf c child = some h)
                (fun e s'' => s''.failed[child]? = some e) (resolve c fuel child s') :=
            ih child orderly asked (by omega)
          refine compiledNow_settles orderly first (answer_settles one _ (first.orderly orderly)
            (fun child member entry head => ?_) rfl)
          cases head
          exact member

end Session

/-! ## Requests of a cache -/

namespace RuleCache

open Session (During)

variable {c c' : RuleCache} {s : Session} {rule other : RuleId} {h : Handle}

/-- How a request for a rule ends. -/
inductive Got (c : RuleCache) (rule : RuleId) : Except CompileError Handle × RuleCache → Prop where
  /-- The rule was published before. -/
  | published {h : Handle} (ready : c.ready[rule]? = some h) : Got c rule (.ok h, c)
  /-- The rule failed before. -/
  | failed {e : CompileError} (ready : c.ready[rule]? = none) (failed : c.failed[rule]? = some e) :
      Got c rule (.error e, c)
  /-- The rule is done in a session, and no rule failed there. -/
  | done {s : Session} {h : Handle} (ready : c.ready[rule]? = none) (during : During c s)
      (ended : s.inProgress = []) (unfailed : s.failed = c.failed)
      (done : s.done[rule]? = some h) :
      Got c rule (.ok h, c.afterSession s true)
  /-- The rule fails in a session. -/
  | refused {s : Session} {e : CompileError} (ready : c.ready[rule]? = none) (during : During c s)
      (ended : s.inProgress = []) (failed : s.failed[rule]? = some e) :
      Got c rule (.error e, c.afterSession s false)

/-- Every request ends in one of these ways. -/
theorem get_got (c : RuleCache) (rule : RuleId) : c.Got rule (c.get rule) := by
  unfold get
  cases ready : c.ready[rule]? with
  | some h => exact .published ready
  | none =>
    cases failed : c.failed[rule]? with
    | some e => exact .failed ready failed
    | none =>
      have orderly := Session.orderly_session c
      have settles := Session.resolve_settles (c.grammar.size + 1) rule orderly
        (fun entry head => by cases head) (by omega)
      change Session.Settles _ _ _ _
        ((Session.resolve c (c.grammar.size + 1) rule).run c.session) at settles
      dsimp only
      generalize (Session.resolve c (c.grammar.size + 1) rule).run c.session = result at settles ⊢
      obtain ⟨e | h, s⟩ := result
      · exact .refused ready settles.1.moves settles.1.inProgress settles.2
      · obtain ⟨stretch, unfailed, found⟩ := settles
        refine .done ready stretch.moves stretch.inProgress unfailed ?_
        rw [Session.handleOf_iff (stretch.orderly orderly), ready, stretch.inProgress] at found
        simpa [session] using found

/-- A session has ended. If it succeeded, no rule failed in it. -/
structure Ended (c : RuleCache) (s : Session) (succeeded : Bool) : Prop where
  during : During c s
  idle : s.inProgress = []
  unfailed : succeeded = true → s.failed = c.failed

/-- A request leaves the cache as it is, or as it is after a session. -/
theorem get_after (c : RuleCache) (rule : RuleId) : (c.get rule).2 = c ∨
    ∃ s succeeded, c.Ended s succeeded ∧ (c.get rule).2 = c.afterSession s succeeded := by
  cases got : c.get rule with
  | mk result after =>
    have ends := c.get_got rule
    rw [got] at ends
    cases ends with
    | published => exact .inl rfl
    | failed => exact .inl rfl
    | done _ during idle unfailed => exact .inr ⟨_, true, ⟨during, idle, fun _ => unfailed⟩, rfl⟩
    | refused _ during idle => exact .inr ⟨_, false, ⟨during, idle, nofun⟩, rfl⟩

/-- What is published after a session that succeeded. -/
theorem ready_afterSession (during : During c s) :
    (c.afterSession s true).ready[rule]? = some h ↔
      c.ready[rule]? = some h ∨ s.done[rule]? = some h := by
  have published := during.orderly.done rule
  rw [show (c.afterSession s true).ready[rule]? = (s.done[rule]?).orElse fun _ => c.ready[rule]?
    from getElem?_fold_insert s.done c.ready rule]
  cases done : s.done[rule]? <;> simp_all

/-- What holds of a session as it starts, is kept by its changes and passes to the next session
holds of every cache. -/
theorem History.keeps {P : RuleCache → Session → Prop}
    (start : P (.empty g model) (RuleCache.empty g model).session)
    (step : ∀ {c : RuleCache} {s s' : Session}, s.Orderly c → Session.Moves c s s' →
      P c s → P c s')
    (next : ∀ {c : RuleCache} {s : Session} {succeeded : Bool}, c.Ended s succeeded →
      P c c.session → P c s →
        P (c.afterSession s succeeded) (c.afterSession s succeeded).session)
    (history : c.History g model) : P c c.session := by
  induction history with
  | empty => exact start
  | @get c _ rule ih =>
    obtain same | ⟨s, succeeded, ended, same⟩ := c.get_after rule
    · rw [same]
      exact ih
    · rw [same]
      exact next ended ih
        (Session.Moves.keeps step ended.during (Session.orderly_session c) ih).2

/-- The cache after requests for rules one after another. -/
def getAll (c : RuleCache) (rules : List RuleId) : RuleCache :=
  rules.foldl (fun c rule => (c.get rule).2) c

/-- Requests are part of what came before. -/
theorem History.getAll (history : c.History g model) (rules : List RuleId) :
    (c.getAll rules).History g model := by
  induction rules generalizing c with
  | nil => exact history
  | cons rule rest ih => exact ih (history.get rule)

/-- What a request keeps, requests one after another keep. -/
theorem getAll_keeps {P : RuleCache → Prop}
    (keeps : ∀ {c : RuleCache} (rule : RuleId), c.History g model → P c → P (c.get rule).2)
    (rules : List RuleId) (history : c.History g model) (holds : P c) :
    P (c.getAll rules) := by
  induction rules generalizing c with
  | nil => exact holds
  | cons rule rest ih => exact ih (history.get rule) (keeps rule history holds)

end RuleCache

end Packrat
