import Packrat.Proofs.Machine.Step
import Packrat.Proofs.Refusals

/-!
# Matches in which no call is refused

As long as the guard refuses no call, it does not matter which rules are active: a call comes out as
it does where none is. So an outcome may be used wherever the rule is entered at that place, and
outcomes may be remembered by rule and place alone. That no call is refused is read off the counter
of a match that remembers nothing, and it holds of all calls below.

* `cuts`: how many calls were refused.
* `UncutWithin`, `UncutCall`: calls in which none is refused.
* `Plain`: what is remembered is how rules come out where none is active.
* `Companions`: parse states without memory and with it, the latter plain.

Main statements: `cuts_lt_of_refuses`, `uncutWithin_of_cuts`, `SparingCall.atStart` and
`match_uncut`.
-/

namespace Packrat.Machine

/-! ## Counting refusals -/

/-- How many calls were refused. -/
def cuts (state : ParseState) : Nat := state.book.stats.recursionCuts

section

variable {env : Environment} {p : Program} {h : Handle} {name : Option String}
  {state : ParseState} {ending : Ending}

/-- An instruction cuts nothing. -/
theorem performed_cuts (pc : Nat) (regs : Registers) :
    cuts (performed env p pc regs state).state = cuts state := by
  rw [cuts, performed_book, cuts]

/-- Going on behind a call cuts nothing. -/
theorem resumed_cuts (pc : Nat) (regs : Registers) (dst : Option Slot) (onFail : Label)
    (outcome : Option Product) :
    cuts (resumed p pc regs dst onFail outcome state).state = cuts state := by
  rw [cuts, resumed_book, cuts]

/-- A run that begins is not cut. -/
theorem begun_cuts : cuts (begun p name state) = cuts state := by
  obtain ⟨⟨pos, furthest⟩, ⟨guard, walk, memo, ⟨calls, hits, cuts⟩, trace⟩⟩ := state
  unfold begun guardEnter
  cases p.recursion <;> rfl

/-- A replay is not cut. -/
theorem replayed_cuts (entry : MemoEntry) : cuts (replayed entry state).2 = cuts state := by
  cases entry <;> rfl

/-- Closing a run cuts nothing. -/
theorem closed_cuts (e : Entry) : cuts (closed e ending).2 = cuts ending.2 := by
  obtain ⟨fault | outcome, ⟨⟨pos, furthest⟩, ⟨guard, walk, memo, stats, trace⟩⟩⟩ := ending
  · unfold closed abandon releaseGuard guardLeave
    cases e.program.recursion <;> rfl
  · unfold closed leaveRule releaseGuard guardLeave
    cases outcome <;> cases e.program.recursion <;> rfl

/-- Entering a rule counts a refusal if the guard refuses the rule. -/
theorem enterRule_cuts (env : Environment) (p : Program) (name : Option String)
    (state : ParseState) : cuts (enterRule env p name state).2 = cuts state +
      if isReentry p.recursion p.rule state.cursor.pos state.book = true then 1 else 0 := by
  by_cases refused : isReentry p.recursion p.rule state.cursor.pos state.book = true
  · rw [if_pos refused, enterRule_cut refused]
    rfl
  · rw [if_neg refused]
    have free := eq_false_of_ne_true refused
    cases found : remembered (memoKey env.memoMode p state.cursor.pos state.book.guard)
      state.book.memo with
    | none =>
      rw [enterRule_run free found]
      exact begun_cuts
    | some entry =>
      cases entry with
      | success stop product =>
        rw [enterRule_success free found]
        rfl
      | failure =>
        rw [enterRule_failure free found]
        rfl

/-- The turn that an instruction comes to has as many cuts. -/
theorem cuts_of_performed {pc : Nat} {regs : Registers} {turn : Turn}
    (performs : performed env p pc regs state = turn) : cuts turn.state = cuts state := by
  rw [← performs, performed_cuts]

/-- The turn that a caller goes on with has as many cuts. -/
theorem cuts_of_resumed {pc : Nat} {regs : Registers} {dst : Option Slot} {onFail : Label}
    {outcome : Option Product} {turn : Turn}
    (resumes : resumed p pc regs dst onFail outcome state = turn) :
    cuts turn.state = cuts state := by
  rw [← resumes, resumed_cuts]

/-- Leaving a rule cuts nothing. -/
theorem leaveRule_cuts (e : Entry) (outcome : Option Product) (state : ParseState) :
    cuts (leaveRule e outcome state) = cuts state :=
  @closed_cuts (.ok outcome, state) e

/-- Asking for admission never lowers the number of cuts. -/
theorem cuts_le_of_enterRule {admission : Admission} {state' : ParseState}
    (enter : enterRule env p name state = (admission, state')) : cuts state ≤ cuts state' := by
  have counted := enterRule_cuts env p name state
  rw [enter] at counted
  exact Nat.le_trans (Nat.le_add_right _ _) (Nat.le_of_eq counted.symm)

/-! ## Refusals of a match -/

/-- The counter does not decrease from one configuration to the next. -/
theorem step_cuts {config config' : Config} (next : step env config = .running config') :
    cuts config.state ≤ cuts config'.state := by
  cases moves_of_step next with
  | performed turn => exact Nat.le_of_eq (cuts_of_performed turn).symm
  | answered turn _ enter resumes =>
    have before := cuts_of_performed turn
    have after := cuts_of_resumed resumes
    exact before ▸ Nat.le_trans (cuts_le_of_enterRule enter) (Nat.le_of_eq after.symm)
  | entered turn _ enter =>
    have before := cuts_of_performed turn
    exact before ▸ cuts_le_of_enterRule enter
  | returned turn resumes =>
    have before := cuts_of_performed turn
    have after := cuts_of_resumed resumes
    rw [leaveRule_cuts] at after
    exact Nat.le_of_eq (before.symm.trans after.symm)

/-- Nor does it up to an end without a fault. -/
theorem run_cuts {fuel : Nat} {config : Config} {outcome : Option Product}
    (found : run env fuel config = some (.ok outcome, state)) :
    cuts config.state ≤ cuts state := by
  induction fuel generalizing config with
  | zero => cases found
  | succ fuel ih =>
    rw [run_succ] at found
    cases next : step env config with
    | running config' =>
      rw [next] at found
      exact Nat.le_trans (step_cuts next) (ih found)
    | finished result state =>
      rw [next] at found
      cases found
      have moves := next ▸ moves_step env config
      cases moves with
      | finished turn =>
        rw [leaveRule_cuts]
        exact Nat.le_of_eq (cuts_of_performed turn).symm

/-- From every configuration that the machine comes by it comes to its result. -/
theorem Visits.run {first config : Config} (visits : Visits env first config) {fuel : Nat}
    {result : Result} (found : run env fuel first = some result) :
    cuts first.state ≤ cuts config.state ∧ ∃ fuel', Machine.run env fuel' config = some result := by
  induction visits with
  | first => exact ⟨Nat.le_refl _, fuel, found⟩
  | next _ next ih =>
    obtain ⟨le, _ | fuel', found⟩ := ih
    · cases found
    · rw [run_succ, next] at found
      exact ⟨Nat.le_trans le (step_cuts next), fuel', found⟩

/-- From a call that the guard refuses, the machine comes to no end without a fault but one with
more refusals. -/
theorem run_cuts_of_refused {fuel : Nat} {config : Config} {callee : Handle} {dst : Option Slot}
    {onFail : Label} {pc : Nat} {regs : Registers} {state' : ParseState} {q : Program}
    {outcome : Option Product} (calling : performed env config.frame.entry.program config.frame.pc
      config.frame.regs config.state = .calling callee name dst onFail pc regs state')
    (program : programOf env callee = .ok q) (refused : Refused env q name state')
    (found : run env fuel config = some (.ok outcome, state)) :
    cuts config.state < cuts state := by
  have before := cuts_of_performed calling
  obtain ⟨t, ⟨e, pc₀, regs₀⟩, callers⟩ := config
  obtain _ | fuel := fuel
  · cases found
  rw [run_succ, step_eq, calling] at found
  simp only [stepOf, call, program] at found
  rw [refused] at found
  dsimp only at found
  rw [@resume_eq env] at found
  -- The refusal is counted before the caller goes on, and nothing later takes it back.
  rcases resumed_cases e.program pc regs dst onFail none (countCut (countCall state')) with
    ⟨pc', regs', after, resumes⟩ | ⟨fault, after, resumes⟩
  · rw [resumes] at found
    have counted : cuts after = cuts state' + 1 := cuts_of_resumed resumes
    exact before ▸ Nat.lt_of_lt_of_le (counted ▸ Nat.lt_succ_self _) (run_cuts found)
  · rw [resumes] at found
    cases found

/-- A match that ends without a fault has counted every call that the guard refused in it. -/
theorem cuts_lt_of_refuses {fuel : Nat} {outcome : Option Value} {s : ParseState}
    (found : matchRule env fuel h state = some (.ok outcome, s)) {rule : RuleId}
    (refuses : Refuses env h state rule) : cuts state < cuts s := by
  obtain ⟨callee, name, state', active, q, makes, program, -, refused⟩ := refuses
  cases makes with
  | outermost =>
    rw [matchRule, program] at found
    dsimp only at found
    rw [refused] at found
    cases found
    exact Nat.lt_succ_self _
  | inner program' enter visits calling =>
    rw [matchRule, program'] at found
    dsimp only at found
    rw [enter] at found
    obtain ⟨⟨ended, _⟩, ran, same⟩ := Option.map_eq_some_iff.mp found
    obtain ⟨same, rfl⟩ := Prod.mk.inj same
    cases ended with
    | error => cases same
    | ok ended =>
      obtain ⟨le, fuel', ran⟩ := visits.run ran
      exact Nat.lt_of_le_of_lt (Nat.le_trans (cuts_le_of_enterRule enter) le)
        (run_cuts_of_refused calling program refused ran)

/-! ## Calls without refusals -/

/-- How a call can end, with calls nested to some depth below it, if none of them is refused. -/
abbrev UncutWithin (env : Environment) (depth : Nat) : CallRelation :=
  SparingWithin env (fun _ => False) depth

/-- The counter does not decrease in a run. If it is the same at the end, it is the same around
every call of the run. -/
theorem Runs.uncut {calls uncut : CallRelation} {turn : Turn}
    (counted : ∀ h name s e, calls h name s e →
      cuts s ≤ cuts e.2 ∧ (cuts e.2 = cuts s → uncut h name s e))
    (runs : Runs env calls p turn ending) : cuts turn.state ≤ cuts ending.2 ∧
      (cuts ending.2 = cuts turn.state → Runs env uncut p turn ending) := by
  induction runs with
  | @step pc regs state _ _ ih =>
    rw [performed_cuts] at ih
    obtain ⟨le, rest⟩ := ih
    exact ⟨le, fun same => .step (rest same)⟩
  | faulted call =>
    obtain ⟨le, uncut⟩ := counted _ _ _ _ call
    exact ⟨le, fun same => .faulted (uncut same)⟩
  | called call _ ih =>
    rw [resumed_cuts] at ih
    obtain ⟨le, uncut⟩ := counted _ _ _ _ call
    obtain ⟨le', rest⟩ := ih
    dsimp only [Turn.state] at le le' rest ⊢
    refine ⟨Nat.le_trans le le', fun same => ?_⟩
    have unchanged := Nat.le_antisymm (Nat.le_trans le' (Nat.le_of_eq same)) le
    exact .called (uncut unchanged) (rest (same.trans unchanged.symm))
  | done => exact ⟨Nat.le_refl _, fun _ => .done⟩

/-- No call is refused in a call that leaves the counter as it was. -/
theorem uncutWithin_of_cuts {depth : Nat} (call : CallsWithin env depth h name state ending) :
    cuts state ≤ cuts ending.2 ∧
      (cuts ending.2 = cuts state → UncutWithin env depth h name state ending) := by
  induction depth generalizing h name state ending with
  | zero => exact call.elim
  | succ depth ih =>
    cases call with
    | missing program =>
      refine ⟨Nat.le_refl _, fun _ => ⟨.missing program, fun p program' => ?_⟩⟩
      cases program.symm.trans program'
    | @answered _ _ _ _ p _ program enter =>
      have counted := enterRule_cuts env p name state
      rw [enter] at counted
      refine ⟨by rw [counted]; exact Nat.le_add_right _ _, fun same => ?_⟩
      refine ⟨.answered program enter, fun q program' refused => ?_⟩
      cases program.symm.trans program'
      rw [if_pos refused, same] at counted
      exact absurd counted (Nat.ne_of_lt (Nat.lt_succ_self _))
    | @ran _ _ _ _ p _ _ program enter runs =>
      have counted := enterRule_cuts env p name state
      rw [enter] at counted
      obtain ⟨le, uncut⟩ := runs.uncut fun _ _ _ _ call => ih call
      dsimp only [Turn.state] at counted le uncut
      rw [closed_cuts]
      refine ⟨by omega, fun same => ?_⟩
      refine ⟨.ran program enter (uncut (by omega)), fun q program' refused => ?_⟩
      cases program.symm.trans program'
      rw [if_pos refused] at counted
      omega

end

/-! ## Calls and active rules -/

variable {c : RuleCache} {env : Environment} {active : List (RuleId × Nat)} {rule : RuleId}
  {h : Handle} {s : ParseState} {e e' : Ending} {pos : Nat}

/-- The parse state in which a parse starts at a place. -/
def startAt (pos : Nat) : ParseState := ⟨⟨pos, 0⟩, (ParseState.initial false).book⟩

/-- A match that begins at a place of the text is one the cache issues. -/
theorem issued_startAt (ready : c.ready[rule]? = some h) (le : pos ≤ env.text.utf8ByteSize) :
    Issued c (forgetful env) [] h (startAt pos) :=
  ⟨⟨rule, ready⟩, le, .initial c.guards pos false, fun on => absurd rfl on⟩

/-- A match that begins at a place of the text comes to an end. -/
theorem exists_call_startAt [RegexEngine] (parse : Parse c env) (ready : c.ready[rule]? = some h)
    (le : pos ≤ env.text.utf8ByteSize) : ∃ e, Calls (forgetful env) h none (startAt pos) e := by
  have issued := issued_startAt ready le
  obtain ⟨e, call, _⟩ := comes (parse_forgetful parse) (anything_closed c _) [] rule le h none
    (startAt pos) ready rfl issued.tracks issued.recalls
  exact ⟨e, call⟩

/-- A call of a published rule when nothing is remembered, in which no call is refused. -/
abbrev UncutCall (c : RuleCache) (env : Environment) (active : List (RuleId × Nat))
    (rule : RuleId) (h : Handle) (s : ParseState) (e : Ending) : Prop :=
  SparingCall c env (fun _ => False) active rule h s e

/-- A call in which none is refused ends as it does where no rule is active and nothing was examined
before. -/
theorem SparingCall.atStart [RegexEngine] (parse : Parse c env)
    (uncut : UncutCall c env active rule h s e) {name : Option String}
    (call : Calls (forgetful env) h name (startAt s.cursor.pos) e') :
    e.1 = e'.1 ∧
      e.2.cursor = ⟨e'.2.cursor.pos, max s.cursor.furthest e'.2.cursor.furthest⟩ := by
  obtain ⟨ready, issued, ⟨name, depth, sparing⟩⟩ := uncut
  have covers : Covers c (fun _ => False) s.cursor.pos active [] :=
    fun _ _ _ => ⟨fun inside => absurd inside List.not_mem_nil, False.elim⟩
  have lasting : Lasting c (forgetful env) (fun _ => False) (fun _ _ => True)
      (SameReach s.cursor.furthest 0) :=
    lasting_sameReach c rfl _ _ _
  have same : SameReach s.cursor.furthest 0 s (startAt s.cursor.pos) := .of_eq rfl
  obtain ⟨⟨outcome, place, reach, reached, reached'⟩, _⟩ := lasting.calls (parse_forgetful parse)
    issued (issued_startAt ready issued.le) covers same trivial sparing call
  rw [Nat.zero_max] at reached'
  refine ⟨outcome, ?_⟩
  rw [← place, reached', ← reached]

/-! ## What is remembered -/

/-- What is remembered is how rules come out where no rule is active, and the text was examined as
far. -/
def Plain (c : RuleCache) (env : Environment) (memo : MemoTable) (furthest : Nat) : Prop :=
  ∀ (key : MemoKey) (entry : MemoEntry), memo[key]? = some entry →
    ∀ (h : Handle) (e : Ending), c.ready[key.rule]? = some h →
      Calls (forgetful env) h none (startAt key.pos) e →
        e.1 = .ok (outcomeOf entry) ∧ e.2.cursor.pos = stopFrom key.pos entry ∧
          e.2.cursor.furthest ≤ furthest

/-- What is plain stays so when more of the text has been examined. -/
theorem Plain.mono {memo : MemoTable} {furthest furthest' : Nat}
    (plain : Plain c env memo furthest) (le : furthest ≤ furthest') :
    Plain c env memo furthest' := by
  intro key entry there h e ready call
  obtain ⟨outcome, stop, reach⟩ := plain key entry there h e ready call
  exact ⟨outcome, stop, Nat.le_trans reach le⟩

/-- The parse state on the left, where nothing is remembered, has the same cursor as the one on the
right, where no call was refused and what is remembered is plain. -/
def Companions (c : RuleCache) (env : Environment) (s s' : ParseState) : Prop :=
  s.cursor = s'.cursor ∧ cuts s' = 0 ∧ Plain c env s'.book.memo s'.cursor.furthest

/-- As long as no call is refused, calls keep what is remembered plain, in every mode. -/
theorem lasting_companions [RegexEngine] (parse : Parse c env) :
    Lasting c env (fun _ => False) (fun _ _ => True) (Companions c env) where
  steady := by
    refine ⟨fun _ _ companions => congrArg Cursor.pos companions.1, ?_⟩
    intro cursor cursor' book book' pos reach companions
    obtain ⟨rfl, uncounted, plain⟩ := companions
    exact ⟨rfl, uncounted, plain.mono (Nat.le_max_left _ _)⟩
  same _ := trivial
  begun _ companions := by
    rw [Companions, begun_cursor, begun_cursor, begun_cuts, begun_memo]
    exact companions
  cut refusable := refusable.elim
  replayed {_ _ rule h p s s' e entry} sides named found := by
    -- No call was refused, so the call ends as one from the start does, and so as the table says.
    obtain ⟨cursor, uncounted, plain⟩ := sides.related
    obtain ⟨key, made, there⟩ := Option.bind_eq_some_iff.mp found
    obtain ⟨_, sameRule, samePos⟩ := memoKey_place made
    have ready := sides.call.ready
    obtain ⟨e₀, call⟩ := exists_call_startAt parse ready sides.call.issued.le
    obtain ⟨outcome, place⟩ := sides.call.atStart parse call
    rw [← named, ← sameRule] at ready
    rw [cursor, ← samePos] at call
    obtain ⟨outcome', stop, reach⟩ := plain key entry there h e₀ ready call
    refine ⟨outcome.trans (outcome'.trans (replayed_fst entry s').symm), ?_, ?_, ?_⟩
    · rw [place, stop, replayed_cursor, samePos, cursor, Nat.max_eq_left reach]
    · rw [replayed_cuts, uncounted]
    · rw [replayed_memo, replayed_cursor]
      exact plain
  closed {_ _ rule h p s s' inner inner'} sides named alike := by
    obtain ⟨outcome, cursor, uncounted, plain⟩ := alike
    have here := congrArg Cursor.pos sides.related.1
    obtain ⟨ended, place⟩ := closed_alike (entryOf (forgetful env) p s) (entryOf env p s') here
      outcome cursor
    refine ⟨ended, place, (closed_cuts _).trans uncounted, fun key entry there => ?_⟩
    obtain there | ⟨made, remembered, stop⟩ := remembered_closed there
    · rw [closed_cursor]
      exact plain key entry there
    · obtain ⟨_, sameRule, samePos⟩ := memoKey_place made
      rw [sameRule, samePos, named, ← here, ← place]
      intro h' e₀ ready call
      cases sides.call.ready.symm.trans ready
      obtain ⟨same, reached⟩ := sides.call.atStart parse call
      rw [← here, ← place] at stop
      refine ⟨same.symm.trans (ended.trans remembered), ?_, ?_⟩
      · rw [← stop, reached]
      · rw [reached]
        exact Nat.le_max_right _ _

/-! ## Matches -/

/-- If the match that remembers nothing refuses no call, then however outcomes are remembered, the
match comes out with the same value, failure or fault at the same place, the text is examined as
far, and no call is refused: for every grammar that can be built and every rule that was compiled,
whatever was asked for, so whatever rules are guarded by bits and by walks. -/
theorem match_uncut [RegexEngine] {d : GrammarDraft} {g : Grammar} (built : d.build = .ok g)
    (m : RecordModel) {c : RuleCache} (history : c.History g m.toObjectModel) {rule : RuleId}
    {h : Handle}
    (ready : c.ready[rule]? = some h) {text : String} (short : text.utf8ByteSize < 2 ^ 63)
    (user : Value) (traced : Bool) {pos : Nat} (le : pos ≤ text.utf8ByteSize) {fuel : Nat}
    {result : Except EngineFault (Option Value)} {s : ParseState}
    (found : matchRule (environmentOf c text user .off) fuel h
      ⟨⟨pos, 0⟩, (ParseState.initial traced).book⟩ = some (result, s))
    (uncut : s.book.stats.recursionCuts = 0) (mode : MemoMode) :
    ∃ enough s', (∀ fuel, enough ≤ fuel → matchRule (environmentOf c text user mode) fuel h
        ⟨⟨pos, 0⟩, (ParseState.initial traced).book⟩ = some (result, s')) ∧
      s'.cursor = s.cursor ∧ s'.book.stats.recursionCuts = 0 := by
  have parse (mode : MemoMode) := parse_of_history built history short user mode
  have rests (mode : MemoMode) := (Reached.start traced le).rests (parse mode)
    (anything_closed c (environmentOf c text user mode))
  have issued (mode : MemoMode) : Issued c (environmentOf c text user mode) [] h
      ⟨⟨pos, 0⟩, (ParseState.initial traced).book⟩ :=
    (rests mode).issued ready
  obtain ⟨p, e, ⟨depth, call⟩, output, _, unique, _⟩ :=
    match_comes (parse .off) (anything_closed c _) (rests .off) ready
  obtain ⟨p', e', call', output', ⟨enough, found'⟩, _⟩ :=
    match_comes (parse mode) (anything_closed c _) (rests mode) ready
  cases unique fuel _ found
  have companions : Companions c (environmentOf c text user mode)
      ⟨⟨pos, 0⟩, (ParseState.initial traced).book⟩
      ⟨⟨pos, 0⟩, (ParseState.initial traced).book⟩ := by
    refine ⟨rfl, rfl, fun key entry there => ?_⟩
    simp [ParseState.initial] at there
  obtain ⟨⟨outcome, cursor, uncounted, _⟩, _⟩ := (lasting_companions (parse mode)).calls
    (parse mode) (issued .off) (issued mode) (.refl c _ pos []) companions
    trivial ((uncutWithin_of_cuts call).2 uncut) call'
  have values : matchValue p = matchValue p' := by
    funext outcome
    rw [matchValue, matchValue, output, output']
  refine ⟨enough, e'.2, fun fuel more => ?_, cursor.symm, uncounted⟩
  rw [matchRule_mono more found', matched, outcome, values]

section

attribute [local instance] letterEngine

/-- Three letters a: no call of the guarded alternative is refused, four calls are answered from the
table if outcomes are remembered, and the match comes out as it does without memory. -/
theorem match_uncut_nested :
    (∃ s, matchRule (environmentOf (nestedCache.get ⟨1⟩).2 "aaa" .null .precise) 100 ⟨0⟩
      (.initial false) = some (.ok (some (.str "a")), s) ∧ s.book.stats.memoHits = 4) ∧
    ∃ enough s', (∀ fuel, enough ≤ fuel →
        matchRule (environmentOf (nestedCache.get ⟨1⟩).2 "aaa" .null .precise) fuel ⟨0⟩
          (.initial false) = some (.ok (some (.str "a")), s')) ∧
      s'.cursor = ⟨3, 3⟩ ∧ s'.book.stats.recursionCuts = 0 := by
  obtain ⟨s, recalled, stats⟩ := nested_recalls false
  obtain ⟨t, found, cursor, uncut⟩ := nested_match
  refine ⟨⟨s, recalled, congrArg Stats.memoHits stats⟩, ?_⟩
  rw [← cursor]
  exact match_uncut nested_built .empty (nested_history ⟨1⟩) nested_ready (by decide) .null false
    (Nat.zero_le _) found uncut .precise

end

end Packrat.Machine
