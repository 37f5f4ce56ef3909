import Packrat.Proofs.Refusals
import Packrat.Proofs.Machine.Twins

/-!
# Caches side by side

Two caches for one grammar have programs for its rules that differ in the guards, and in the
matchers by which the rules call each other. Calls with them end alike if the guard refuses a rule
with the one cache just if it does so with the other one; so they do if no call is refused but of
rules that are guarded in both.

* `Siblings`: two caches for one grammar, and parses with them.
* `Shares`: the same of the rules that are guarded in both caches are active.

Main statements: `calls_siblings` and `match_siblings`.
-/

namespace Packrat.Machine

/-- Two caches for one grammar, and parses with them that differ in the matchers only. -/
structure Siblings [RegexEngine] (c c' : RuleCache) (env env' : Environment) : Prop where
  parse : Parse c env
  parse' : Parse c' env'
  grammar : c'.grammar = c.grammar
  model : c'.model = c.model
  env : env' = { env with arena := env'.arena }

/-- Matchers of one rule in two caches. -/
def SameRule (c c' : RuleCache) (h h' : Handle) : Prop :=
  ∃ rule : RuleId, c.ready[rule]? = some h ∧ c'.ready[rule]? = some h'

/-- A rule is guarded in both caches. -/
def BothGuarded (c c' : RuleCache) (rule : RuleId) : Prop :=
  c.guards.contains rule = true ∧ c'.guards.contains rule = true

/-- The same of the rules that are guarded in both caches are active. -/
def Shares (c c' : RuleCache) (active active' : List (RuleId × Nat)) : Prop :=
  ∀ rule pos, BothGuarded c c' rule → ((rule, pos) ∈ active ↔ (rule, pos) ∈ active')

variable {c c' : RuleCache} {env env' : Environment} {active active' : List (RuleId × Nat)}
  {rule : RuleId} {h h' : Handle} {d d' : RuleDef} {p p' : Program} {s s' : ParseState}

/-! ## Programs -/

/-- The programs of a rule in two caches are twins. -/
theorem Siblings.twins [RegexEngine] (siblings : Siblings c c' env env')
    (published : c.Published rule h d p) (published' : c'.Published rule h' d' p') :
    Twins (SameRule c c') env env' p p' := by
  obtain ⟨raw, lowered, same, answered⟩ := published.linked
  obtain ⟨raw', lowered', same', answered'⟩ := published'.linked
  rw [siblings.grammar, siblings.model, lowered] at lowered'
  obtain rfl : raw = raw' := Except.ok.inj lowered'
  rw [same, same', siblings.env]
  refine twins_of_link env env'.arena (fun callee member => ?_) p.recursion p'.recursion
  obtain ⟨h, found⟩ := answered callee member
  obtain ⟨h', found'⟩ := answered' callee member
  exact ⟨h, h', found, found', callee.rule, found, found'⟩

/-- The programs of a rule in two caches are remembered alike. -/
theorem Siblings.memoKey_eq [RegexEngine] (siblings : Siblings c c' env env')
    (imprecise : env.memoMode ≠ .precise) (published : c.Published rule h d p)
    (published' : c'.Published rule h' d' p') (pos : Nat) (guard guard' : Guard) :
    memoKey env'.memoMode p' pos guard' = memoKey env.memoMode p pos guard := by
  have sameMode : env'.memoMode = env.memoMode := by rw [siblings.env]
  have sameRule : p'.rule = p.rule := published'.compiled.rule.trans published.compiled.rule.symm
  have concrete : p'.concrete = p.concrete := by
    have found := published'.compiled.found
    rw [siblings.grammar, published.compiled.found] at found
    cases found
    exact published'.compiled.concrete.trans published.compiled.concrete.symm
  unfold memoKey
  rw [sameMode, sameRule, concrete]
  cases mode : env.memoMode with
  | precise => exact absurd mode imprecise
  | _ => rfl

/-! ## Active rules -/

/-- Entering a rule in both caches. -/
theorem Shares.entered (shares : Shares c c' active active') (rule : RuleId) (pos : Nat) :
    Shares c c' (entered c.guards rule pos active) (entered c'.guards rule pos active') := by
  intro other q both
  have same := shares other q both
  have member {guards : Guards} {active : List (RuleId × Nat)}
      (given : guards.contains other = true) :
      (other, q) ∈ Machine.entered guards rule pos active ↔
        other = rule ∧ q = pos ∨ (other, q) ∈ active := by
    unfold Machine.entered
    by_cases entering : guards.contains rule = true
    · rw [if_pos entering, List.mem_cons, Prod.mk.injEq]
    · rw [if_neg entering]
      refine ⟨.inr, ?_⟩
      rintro (⟨rfl, _⟩ | inside)
      · exact absurd given entering
      · exact inside
  rw [member both.1, member both.2, same]

/-- The guard refuses a rule with both caches or with neither, if it refuses it only if the rule is
guarded in both. -/
theorem Shares.reentry_eq [RegexEngine] (shares : Shares c c' active active')
    (published : c.Published rule h d p) (published' : c'.Published rule h' d' p')
    (tracks : Tracks c.guards active s.cursor.pos s.book)
    (tracks' : Tracks c'.guards active' s'.cursor.pos s'.book)
    (here : s.cursor.pos = s'.cursor.pos)
    (covered : isReentry p.recursion p.rule s.cursor.pos s.book = true → BothGuarded c c' p.rule)
    (covered' : isReentry p'.recursion p'.rule s'.cursor.pos s'.book = true →
      BothGuarded c c' p'.rule) :
    isReentry p'.recursion p'.rule s'.cursor.pos s'.book =
      isReentry p.recursion p.rule s.cursor.pos s.book := by
  have cut := reentry_iff published tracks
  have cut' := reentry_iff published' tracks'
  rw [published.compiled.rule] at cut covered ⊢
  rw [published'.compiled.rule] at cut' covered' ⊢
  rw [Bool.eq_iff_iff]
  constructor
  · intro refused
    have there := cut'.mp refused
    rw [← here] at there
    exact cut.mpr ((shares rule _ (covered' refused)).mpr there)
  · intro refused
    have there := (shares rule _ (covered refused)).mp (cut.mp refused)
    rw [here] at there
    exact cut'.mpr there

/-! ## Calls -/

/-- Parse states with the same cursor, where the same is remembered. -/
def SameMemory (s s' : ParseState) : Prop :=
  s.cursor = s'.cursor ∧ s.book.memo = s'.book.memo

/-- Having the same memory looks at what a call can change only. -/
theorem sameMemory_steady : Steady SameMemory where
  pos _ _ same := congrArg Cursor.pos same.1
  moved cursor cursor' book book' pos reach same := by
    obtain ⟨rfl, memo⟩ := same
    exact ⟨rfl, memo⟩

/-- The same runs end the same calls. -/
theorem closed_sameMemory (here : s.cursor.pos = s'.cursor.pos) {ending ending' : Ending}
    (alike : EndAlike SameMemory ending ending')
    (key : memoKey env'.memoMode p' s.cursor.pos s'.book.guard =
      memoKey env.memoMode p s.cursor.pos s.book.guard) :
    EndAlike SameMemory (closed (entryOf env p s) ending)
      (closed (entryOf env' p' s') ending') := by
  obtain ⟨outcome, cursor, memo⟩ := alike
  obtain ⟨ended, place⟩ := closed_alike (entryOf env p s) (entryOf env' p' s') here outcome cursor
  refine ⟨ended, place, ?_⟩
  obtain ⟨result, after⟩ := ending
  obtain ⟨result', after'⟩ := ending'
  obtain rfl : result = result' := outcome
  obtain fault | outcome := result
  · rw [closed, closed, abandon_memo, abandon_memo]
    exact memo
  · rw [closed, closed, leaveRule_memo, leaveRule_memo, entryOf, entryOf, ← here, key]
    dsimp only at cursor memo ⊢
    rw [cursor, memo]

/-- Calls of a rule end alike with two caches, if no call is refused but of rules that are guarded
in both. -/
theorem calls_siblings [RegexEngine] (siblings : Siblings c c' env env')
    (imprecise : env.memoMode ≠ .precise) {depth : Nat} {name : Option String} {e e' : Ending}
    (handles : SameRule c c' h h')
    (issued : Issued c env active h s) (issued' : Issued c' env' active' h' s')
    (shares : Shares c c' active active') (same : SameMemory s s')
    (call : SparingWithin env (BothGuarded c c') depth h name s e)
    (call' : Sparing env' (BothGuarded c c') h' name s' e') : EndAlike SameMemory e e' := by
  induction depth generalizing active active' h h' name s s' e e' with
  | zero => exact call.elim
  | succ depth ih =>
    obtain ⟨rule, ready, ready'⟩ := handles
    obtain ⟨d, p, published⟩ := siblings.parse.cache.entries rule h ready
    obtain ⟨d', p', published'⟩ := siblings.parse'.cache.entries rule h' ready'
    have program := programOf_of_published siblings.parse published
    have program' := programOf_of_published siblings.parse' published'
    have here : s.cursor.pos = s'.cursor.pos := congrArg Cursor.pos same.1
    obtain ⟨answers', allowed'⟩ := sparing_iff.mp call'
    have guards := shares.reentry_eq published published' issued.tracks issued'.tracks here
      (call.2 p program) (allowed' p' program')
    -- Keys hold no active rules outside of precise mode, so both sides remember alike.
    have known : remembered (memoKey env'.memoMode p' s'.cursor.pos s'.book.guard) s'.book.memo =
        remembered (memoKey env.memoMode p s.cursor.pos s.book.guard) s.book.memo := by
      rw [siblings.memoKey_eq imprecise published published', here, same.2]
    have key := siblings.memoKey_eq imprecise published published' s.cursor.pos s.book.guard
      s'.book.guard
    have course' := Answers.course program' answers'
    cases Answers.course program call.1 with
    | cut refused =>
      obtain rfl := course'.of_cut (guards.trans refused)
      exact ⟨rfl, same⟩
    | @hit entry free found =>
      obtain rfl := course'.of_hit (guards.trans free) (known.trans found)
      refine ⟨(replayed_fst entry s).trans (replayed_fst entry s').symm, ?_⟩
      rw [SameMemory, replayed_cursor, replayed_cursor, replayed_memo, replayed_memo, same.1]
      exact ⟨rfl, same.2⟩
    | @ran inner free unknown runs =>
      obtain ⟨inner', runs', rfl⟩ := course'.of_run (guards.trans free) (known.trans unknown)
      have calls := issued.runs siblings.parse published
        (fun _ _ _ _ call => ⟨depth, call.calls⟩) runs
      have calls' := issued'.runs siblings.parse' published'
        (fun _ _ _ _ call => call.calls) runs'
      have twins := siblings.twins published published'
      rw [← here, twins.fresh] at calls'
      have begins : SameMemory (begun p name s) (begun p' name s') := by
        rw [SameMemory, begun_cursor, begun_cursor, begun_memo, begun_memo]
        exact same
      have inner := (Runs.twins (Calls env') sameMemory_steady twins
        (fun h h' name t t' e e' handles related call call' => ?_) calls calls' (.at begins)).1
      · exact closed_sameMemory here inner key
      · obtain ⟨call, _, issued⟩ := call
        obtain ⟨call', _, issued'⟩ := call'
        exact ⟨ih handles issued issued' (shares.entered rule _) related call call', call'.calls⟩

/-! ## Matches -/

/-- No rule is active and nothing is remembered. -/
theorem Rests.blank (le : s.cursor.pos ≤ env.text.utf8ByteSize) (guard : s.book.guard = ⟨0, 0⟩)
    (walk : s.book.walk = []) (empty : s.book.memo = ∅) : Rests c env anything s := by
  refine ⟨le, guard, walk, fun _ key entry there => ?_⟩
  rw [empty] at there
  simp at there

/-- Only guarded rules are refused. -/
theorem guarded_of_refuses [RegexEngine] (parse : Parse c env) (rests : Rests c env anything s)
    (ready : c.ready[rule]? = some h) {refused : RuleId} (refuses : Refuses env h s refused) :
    c.guards.contains refused = true := by
  obtain ⟨callee, name, state, active, p, makes, program, rfl, cut⟩ := refuses
  obtain ⟨issued, _⟩ := makes.issued parse rests ready
  obtain ⟨calledRule, calledReady⟩ := issued.ready
  obtain ⟨d, p', published⟩ := parse.cache.entries calledRule callee calledReady
  cases program.symm.trans (programOf_of_published parse published)
  refine (guarded_iff parse published).mpr fun unguarded => ?_
  rw [refused_iff, unguarded] at cut
  cases cut

/-- Two siblings are so without memo as well. -/
theorem Siblings.forgetful [RegexEngine] (siblings : Siblings c c' env env') :
    Siblings c c' (forgetful env) (forgetful env') where
  parse := parse_forgetful siblings.parse
  parse' := parse_forgetful siblings.parse'
  grammar := siblings.grammar
  model := siblings.model
  env := by
    rw [siblings.env]
    rfl

/-- A match that remembers outcomes by active rules, and the match that remembers nothing: the one
refuses some rules only if the other one does. -/
theorem match_forgets [RegexEngine] (parse : Parse c env) (precise : env.memoMode = .precise)
    (walkless : c.Walkless) (ready : c.ready[rule]? = some h) (rests : Rests c env anything s)
    (rests' : Rests c (forgetful env) anything s) (empty : s.book.memo = ∅)
    {refusable : RuleId → Prop} {e : Ending} (sparing : Sparing env refusable h none s e) :
    ∃ e', Sparing (forgetful env) refusable h none s e' ∧ e'.1 = e.1 ∧
      e'.2.cursor = e.2.cursor := by
  have nothing (key : MemoKey) (entry : MemoEntry) : s.book.memo[key]? ≠ some entry := by
    rw [empty]
    simp
  have issued := rests.issued ready
  have issued' := rests'.issued ready
  have mirrors : Mirrors c env s s :=
    ⟨rfl, fun key entry there => absurd there (nothing key entry)⟩
  have spared : AllSpared c env refusable s.book.memo :=
    fun key entry there => absurd there (nothing key entry)
  obtain ⟨_, e', call', _⟩ := match_comes (parse_forgetful parse) (anything_closed c _) rests' ready
  obtain ⟨depth, sparing⟩ := sparing
  obtain ⟨outcome, cursor, _⟩ := calls_mirror parse precise walkless issued' issued mirrors call'
    sparing.calls
  exact ⟨e', (sparing_mirror parse precise walkless issued' issued ⟨mirrors, spared⟩ call'
    sparing).1, outcome, cursor⟩

/-- Calls of a rule with two caches end alike where no rule is active and nothing is remembered. -/
theorem calls_history [RegexEngine] (siblings : Siblings c c' env env')
    (ready : c.ready[rule]? = some h) (ready' : c'.ready[rule]? = some h')
    (walkless : env.memoMode = .precise → c.Walkless ∧ c'.Walkless)
    (le : s.cursor.pos ≤ env.text.utf8ByteSize) (guard : s.book.guard = ⟨0, 0⟩)
    (walk : s.book.walk = []) (empty : s.book.memo = ∅) {e e' : Ending}
    (call : Sparing env (BothGuarded c c') h none s e)
    (call' : Sparing env' (BothGuarded c c') h' none s e') :
    e.1 = e'.1 ∧ e.2.cursor = e'.2.cursor := by
  have le' : s.cursor.pos ≤ env'.text.utf8ByteSize := by
    rw [siblings.env]
    exact le
  have rests (c : RuleCache) (env : Environment) (le : s.cursor.pos ≤ env.text.utf8ByteSize) :
      Rests c env anything s := .blank le guard walk empty
  have shares : Shares c c' [] [] := fun _ _ _ => Iff.rfl
  by_cases precise : env.memoMode = .precise
  · -- Both matches come out as those that remember nothing, which come out alike.
    have precise' : env'.memoMode = .precise := by
      rw [siblings.env]
      exact precise
    obtain ⟨walkless, walkless'⟩ := walkless precise
    obtain ⟨_, ⟨depth, off⟩, outcome, cursor⟩ := match_forgets siblings.parse precise walkless ready
      (rests c env le) (rests c _ le) empty call
    obtain ⟨_, off', outcome', cursor'⟩ := match_forgets siblings.parse' precise' walkless' ready'
      (rests c' env' le') (rests c' _ le') empty call'
    obtain ⟨same, after⟩ := calls_siblings siblings.forgetful (by simp [forgetful])
      ⟨rule, ready, ready'⟩ ((rests c (forgetful env) le).issued ready)
      ((rests c' (forgetful env') le').issued ready') shares ⟨rfl, rfl⟩ off off'
    constructor
    · rw [← outcome, ← outcome', same]
    · rw [← cursor, ← cursor', after.1]
  · obtain ⟨depth, call⟩ := call
    obtain ⟨same, after⟩ := calls_siblings siblings precise ⟨rule, ready, ready'⟩
      ((rests c env le).issued ready) ((rests c' env' le').issued ready') shares ⟨rfl, rfl⟩
      call call'
    exact ⟨same, after.1⟩

/-- Matches with two caches come out alike where no rule is active and nothing is remembered, if
every rule for which one of them refuses a call is guarded in the other cache, too. Where outcomes
are remembered by active rules, no program may be guarded by a walk. -/
theorem match_siblings [RegexEngine] (siblings : Siblings c c' env env')
    (ready : c.ready[rule]? = some h) (ready' : c'.ready[rule]? = some h')
    (walkless : env.memoMode = .precise → c.Walkless ∧ c'.Walkless)
    (le : s.cursor.pos ≤ env.text.utf8ByteSize) (guard : s.book.guard = ⟨0, 0⟩)
    (walk : s.book.walk = []) (empty : s.book.memo = ∅)
    (covered : ∀ refused, Refuses env h s refused → c'.guards.contains refused = true)
    (covered' : ∀ refused, Refuses env' h' s refused → c.guards.contains refused = true) :
    ∃ enough outcome t t', (∀ fuel, enough ≤ fuel → matchRule env fuel h s = some (outcome, t) ∧
      matchRule env' fuel h' s = some (outcome, t')) ∧ t.cursor = t'.cursor := by
  have rests : Rests c env anything s := .blank le guard walk empty
  have rests' : Rests c' env' anything s := by
    refine .blank ?_ guard walk empty
    rw [siblings.env]
    exact le
  obtain ⟨p, e, call, output, ⟨fuel, found⟩, _⟩ :=
    match_comes siblings.parse (anything_closed _ _) rests ready
  obtain ⟨p', e', call', output', ⟨fuel', found'⟩, _⟩ :=
    match_comes siblings.parse' (anything_closed _ _) rests' ready'
  have sparing : Sparing env (BothGuarded c c') h none s e :=
    sparing_of_refuses call fun refused refuses =>
      ⟨guarded_of_refuses siblings.parse rests ready refuses, covered refused refuses⟩
  have sparing' : Sparing env' (BothGuarded c c') h' none s e' :=
    sparing_of_refuses call' fun refused refuses =>
      ⟨covered' refused refuses, guarded_of_refuses siblings.parse' rests' ready' refuses⟩
  obtain ⟨same, after⟩ :=
    calls_history siblings ready ready' walkless le guard walk empty sparing sparing'
  have values : matchValue p = matchValue p' := by
    funext outcome
    rw [matchValue, matchValue, output, output', siblings.grammar]
  refine ⟨max fuel fuel', e.1.map (matchValue p), e.2, e'.2, fun more enough => ?_, after⟩
  constructor
  · exact matchRule_mono (Nat.le_trans (Nat.le_max_left _ _) enough) found
  · rw [same, values]
    exact matchRule_mono (Nat.le_trans (Nat.le_max_right _ _) enough) found'

end Packrat.Machine
