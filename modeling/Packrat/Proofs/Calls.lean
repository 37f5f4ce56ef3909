import Packrat.Proofs.Machine.Guard
import Packrat.Proofs.Meaning.Related

/-!
# Calls of published rules

Every call of a published rule comes to an end, and in one of the ways that a closed meaning of the
rules has for it. No single number decreases from a call to the calls below it: either the bytes
left do, or the guarded rules that are still free at the place, or the chain of calls of rules
without guards gets shorter.

* `Parse`: the rules of a cache, and a text that is not too long.
* `Meanings`, `Closed`: ways for rules to come out, closed under what rules do.
* `Recalls`: what is remembered agrees with the meaning.
* `Comes`: calls of a rule at a place come out as the meaning says.

Main statements: `run_passes`, `run_concludes`, `comes_of_below` and `comes`.
-/

namespace Packrat.Machine

open Lowering (Context Compiled RecordLike)
open Text (Within)

/-- The rules of a cache and what stays fixed during a parse with them. -/
structure Parse [RegexEngine] (c : RuleCache) (env : Environment) : Prop where
  cache : c.Sound
  inferred : c.grammar.Inferred
  record : RecordLike c.model
  model : env.model = c.model
  arena : env.arena = c.arena
  short : env.text.utf8ByteSize < 2 ^ 63

/-- What is known about a rule of the grammar of a cache. -/
def contextOf (c : RuleCache) (rule : RuleId) : Context :=
  ⟨c.grammar, c.model, c.grammar.displayName rule, c.grammar.outputOf rule⟩

/-! ## Meanings -/

/-- The ways for rules to come out at places while some guarded rules are active. -/
abbrev Meanings := (active : List (RuleId × Nat)) → RuleId → Nat → Choice Outcome

/-- A meaning has all ways in which rules come out by their definition. What is remembered must not
depend on the rules that are active. -/
structure Closed [RegexEngine] (c : RuleCache) (env : Environment) (M : Meanings) : Prop where
  cut : ∀ (active : List (RuleId × Nat)) (rule : RuleId) (pos : Nat),
    c.guards.contains rule = true → (rule, pos) ∈ active → M active rule pos .failed
  rule : ∀ (active : List (RuleId × Nat)) (rule : RuleId) (pos : Nat) (d : RuleDef),
    c.grammar.get? rule = some d → (rule, pos) ∉ active → ∀ out,
    Meaning.rule (M (entered c.guards rule pos active)) env (contextOf c rule) pos d.rule out →
    M active rule pos out
  context : env.memoMode ≠ .off → ∀ (active active' : List (RuleId × Nat)) (rule : RuleId)
    (pos : Nat) (out : Outcome), M active rule pos out → M active' rule pos out

/-- What is remembered for a rule at a place is one of the ways in which it may come out. -/
def Recalled (c : RuleCache) (env : Environment) (M : Meanings) (rule : RuleId) (pos : Nat) :
    MemoEntry → Prop
  | .success stop product => ∃ value, Denotes (c.grammar.outputOf rule) product value ∧
      M [] rule pos (.matched value stop) ∧ Within env.text pos stop
  | .failure => M [] rule pos .failed

/-- What is remembered agrees with the meaning, if it is looked at. -/
def Recalls (c : RuleCache) (env : Environment) (M : Meanings) (memo : MemoTable) : Prop :=
  env.memoMode ≠ .off → ∀ (key : MemoKey) (entry : MemoEntry), memo[key]? = some entry →
    Recalled c env M key.rule key.pos entry

/-- The book has the guard and the walk of another one, and remembers what agrees with the
meaning. -/
structure Kept (c : RuleCache) (env : Environment) (M : Meanings) (book book' : Book) : Prop where
  guard : book'.guard = book.guard
  walk : book'.walk = book.walk
  recalls : Recalls c env M book'.memo

/-- Calls of a rule at a place, while some guarded rules are active, end in one of the ways that
the meaning has for them. -/
def Comes (c : RuleCache) (env : Environment) (M : Meanings) (active : List (RuleId × Nat))
    (rule : RuleId) (pos : Nat) : Prop :=
  ∀ (h : Handle) (name : Option String) (state : ParseState), c.ready[rule]? = some h →
    state.cursor.pos = pos → Tracks c.guards active pos state.book →
    Recalls c env M state.book.memo → ∃ ending, Calls env h name state ending ∧
      Concluded env.text (c.grammar.outputOf rule) (Kept c env M state.book) pos
        (M active rule pos) ending ∧
      (ending.1 = .ok none → ending.2.cursor.pos = pos)

/-! ## Stages of a call -/

section

variable {env : Environment} {p : Program} {name : Option String} {state : ParseState}

/-- A rule that is active already is refused. -/
theorem enterRule_cut (active : isReentry p.recursion p.rule state.cursor.pos state.book = true) :
    enterRule env p name state = (.answered none, countCut (countCall state)) := by
  obtain ⟨⟨pos, furthest⟩, ⟨guard, walk, memo, ⟨calls, hits, cuts⟩, trace⟩⟩ := state
  rw [enterRule]
  exact if_pos active

/-- A success that is remembered answers the call. -/
theorem enterRule_success
    (free : isReentry p.recursion p.rule state.cursor.pos state.book = false) {stop : Nat}
    {product : Product} (found : remembered
      (memoKey env.memoMode p state.cursor.pos state.book.guard) state.book.memo =
        some (.success stop product)) :
    enterRule env p name state =
      (.answered (some product), moveTo stop (countHit (countCall state))) := by
  obtain ⟨⟨pos, furthest⟩, ⟨guard, walk, memo, ⟨calls, hits, cuts⟩, trace⟩⟩ := state
  rw [enterRule]
  refine (if_neg (by rw [countCall]; exact ne_true_of_eq_false free)).trans ?_
  dsimp only [countCall] at found ⊢
  rw [found]

/-- A failure that is remembered answers the call. -/
theorem enterRule_failure
    (free : isReentry p.recursion p.rule state.cursor.pos state.book = false)
    (found : remembered (memoKey env.memoMode p state.cursor.pos state.book.guard)
      state.book.memo = some .failure) :
    enterRule env p name state = (.answered none, countHit (countCall state)) := by
  obtain ⟨⟨pos, furthest⟩, ⟨guard, walk, memo, ⟨calls, hits, cuts⟩, trace⟩⟩ := state
  rw [enterRule]
  refine (if_neg (by rw [countCall]; exact ne_true_of_eq_false free)).trans ?_
  dsimp only [countCall] at found ⊢
  rw [found]

/-- The parse state in which the program of a rule starts. -/
def begun (p : Program) (name : Option String) (state : ParseState) : ParseState :=
  match recordEvent p (.push p.rule name) (countCall state) with
  | ⟨cursor, book⟩ => ⟨cursor, guardEnter p.recursion p.rule state.cursor.pos book⟩

/-- What is known about the run of a program from its start on. -/
def entryOf (env : Environment) (p : Program) (state : ParseState) : Entry :=
  ⟨p, state.cursor.pos, state.book.guard,
    memoKey env.memoMode p state.cursor.pos state.book.guard⟩

/-- Otherwise the program of the rule begins to run. -/
theorem enterRule_run (free : isReentry p.recursion p.rule state.cursor.pos state.book = false)
    (unknown : remembered (memoKey env.memoMode p state.cursor.pos state.book.guard)
      state.book.memo = none) :
    enterRule env p name state =
      (.entered ⟨entryOf env p state, 0, .fresh p⟩, begun p name state) := by
  obtain ⟨⟨pos, furthest⟩, ⟨guard, walk, memo, ⟨calls, hits, cuts⟩, trace⟩⟩ := state
  rw [enterRule]
  refine (if_neg (by rw [countCall]; exact ne_true_of_eq_false free)).trans ?_
  dsimp only [countCall] at unknown ⊢
  rw [unknown]
  rfl

/-- A program is entered only if the rule is free and no outcome is remembered. -/
theorem begun_of_enterRule {frame : Frame} {state' : ParseState}
    (enter : enterRule env p name state = (.entered frame, state')) :
    isReentry p.recursion p.rule state.cursor.pos state.book = false ∧
      remembered (memoKey env.memoMode p state.cursor.pos state.book.guard) state.book.memo = none ∧
      frame = ⟨entryOf env p state, 0, .fresh p⟩ ∧ state' = begun p name state := by
  cases free : isReentry p.recursion p.rule state.cursor.pos state.book with
  | true => cases (enterRule_cut free).symm.trans enter
  | false =>
    cases found : remembered (memoKey env.memoMode p state.cursor.pos state.book.guard)
      state.book.memo with
    | none =>
      cases (enterRule_run free found).symm.trans enter
      exact ⟨rfl, rfl, rfl, rfl⟩
    | some entry =>
      cases entry with
      | success stop product => cases (enterRule_success free found).symm.trans enter
      | failure => cases (enterRule_failure free found).symm.trans enter

/-- The end of a call that is answered from the memo table. -/
def replayed : MemoEntry → ParseState → Ending
  | .success stop product, state => (.ok (some product), moveTo stop (countHit (countCall state)))
  | .failure, state => (.ok none, countHit (countCall state))

/-- A call that is answered at once is refused by the guard or answered from the memo table. -/
theorem answered_of_enterRule {outcome : Option Product} {state' : ParseState}
    (enter : enterRule env p name state = (.answered outcome, state')) :
    state' = countCut (countCall state) ∨ ∃ entry, state' = (replayed entry state).2 := by
  cases free : isReentry p.recursion p.rule state.cursor.pos state.book with
  | true =>
    cases (enterRule_cut free).symm.trans enter
    exact .inl rfl
  | false =>
    cases found : remembered (memoKey env.memoMode p state.cursor.pos state.book.guard)
      state.book.memo with
    | none => cases (enterRule_run free found).symm.trans enter
    | some entry =>
      refine .inr ⟨entry, ?_⟩
      cases entry with
      | success stop product =>
        cases (enterRule_success free found).symm.trans enter
        rfl
      | failure =>
        cases (enterRule_failure free found).symm.trans enter
        rfl

/-- How a call of a program goes: the guard refuses it, the memo table answers it, or the program
runs. -/
inductive Course (env : Environment) (calls : CallRelation) (p : Program) (name : Option String)
    (state : ParseState) : Ending → Prop where
  /-- The rule is active already. -/
  | cut (active : isReentry p.recursion p.rule state.cursor.pos state.book = true) :
    Course env calls p name state (.ok none, countCut (countCall state))
  /-- The outcome is remembered. -/
  | hit {entry : MemoEntry}
      (free : isReentry p.recursion p.rule state.cursor.pos state.book = false)
      (found : remembered (memoKey env.memoMode p state.cursor.pos state.book.guard)
        state.book.memo = some entry) :
    Course env calls p name state (replayed entry state)
  /-- The program runs. -/
  | ran {ending : Ending}
      (free : isReentry p.recursion p.rule state.cursor.pos state.book = false)
      (unknown : remembered (memoKey env.memoMode p state.cursor.pos state.book.guard)
        state.book.memo = none)
      (runs : Runs env calls p (.at 0 (.fresh p) (begun p name state)) ending) :
    Course env calls p name state (closed (entryOf env p state) ending)

/-- Every call of a program goes in one of these ways. -/
theorem Answers.course {calls : CallRelation} {h : Handle} {ending : Ending}
    (program : programOf env h = .ok p) (answers : Answers env calls h name state ending) :
    Course env calls p name state ending := by
  cases free : isReentry p.recursion p.rule state.cursor.pos state.book with
  | true =>
    cases answers with
    | missing program' => cases program.symm.trans program'
    | answered program' enter =>
      cases program.symm.trans program'
      cases (enterRule_cut free).symm.trans enter
      exact .cut free
    | ran program' enter =>
      cases program.symm.trans program'
      cases (enterRule_cut free).symm.trans enter
  | false =>
    cases found : remembered (memoKey env.memoMode p state.cursor.pos state.book.guard)
      state.book.memo with
    | some entry =>
      have enters : enterRule env p name state =
          (.answered (replayed entry state).1.toOption.join, (replayed entry state).2) := by
        cases entry with
        | success stop product => exact enterRule_success free found
        | failure => exact enterRule_failure free found
      cases answers with
      | missing program' => cases program.symm.trans program'
      | answered program' enter =>
        cases program.symm.trans program'
        cases enters.symm.trans enter
        have whole := @Course.hit env calls p name state entry free found
        cases entry <;> exact whole
      | ran program' enter =>
        cases program.symm.trans program'
        cases enters.symm.trans enter
    | none =>
      cases answers with
      | missing program' => cases program.symm.trans program'
      | answered program' enter =>
        cases program.symm.trans program'
        cases (enterRule_run free found).symm.trans enter
      | ran program' enter runs =>
        cases program.symm.trans program'
        cases (enterRule_run free found).symm.trans enter
        exact .ran free found runs

/-- A call ends with a fault at once for want of a program, or it goes in one of these ways. -/
theorem Answers.goes {calls : CallRelation} {h : Handle} {ending : Ending}
    (answers : Answers env calls h name state ending) :
    (∃ fault, programOf env h = .error fault ∧ ending = (.error fault, state)) ∨
      ∃ p, programOf env h = .ok p ∧ Course env calls p name state ending := by
  cases program : programOf env h with
  | error fault =>
    cases answers with
    | missing program' =>
      cases program.symm.trans program'
      exact .inl ⟨fault, rfl, rfl⟩
    | answered program' => cases program.symm.trans program'
    | ran program' => cases program.symm.trans program'
  | ok p => exact .inr ⟨p, rfl, answers.course program⟩

/-- A call whose outcome is remembered can end with it. -/
theorem Answers.of_hit {calls : CallRelation} {h : Handle} {entry : MemoEntry}
    (program : programOf env h = .ok p)
    (free : isReentry p.recursion p.rule state.cursor.pos state.book = false)
    (found : remembered (memoKey env.memoMode p state.cursor.pos state.book.guard)
      state.book.memo = some entry) : Answers env calls h name state (replayed entry state) := by
  cases entry with
  | success stop product => exact .answered program (enterRule_success free found)
  | failure => exact .answered program (enterRule_failure free found)

/-- A call of a program can end as it can go. -/
theorem Answers.of_course {calls : CallRelation} {h : Handle} {ending : Ending}
    (program : programOf env h = .ok p) (course : Course env calls p name state ending) :
    Answers env calls h name state ending := by
  cases course with
  | cut active => exact .answered program (enterRule_cut active)
  | hit free found => exact .of_hit program free found
  | ran free unknown runs => exact .ran program (enterRule_run free unknown) runs

section

variable {calls : CallRelation} {ending : Ending}

/-- A call of a rule that is active already ends as refused. -/
theorem Course.of_cut (course : Course env calls p name state ending)
    (active : isReentry p.recursion p.rule state.cursor.pos state.book = true) :
    ending = (.ok none, countCut (countCall state)) := by
  cases course with
  | cut => rfl
  | hit free => cases active.symm.trans free
  | ran free => cases active.symm.trans free

/-- A call with an outcome that is remembered ends with that one. -/
theorem Course.of_hit (course : Course env calls p name state ending) {entry : MemoEntry}
    (free : isReentry p.recursion p.rule state.cursor.pos state.book = false)
    (found : remembered (memoKey env.memoMode p state.cursor.pos state.book.guard)
      state.book.memo = some entry) : ending = replayed entry state := by
  cases course with
  | cut active => cases active.symm.trans free
  | hit _ found' =>
    cases found.symm.trans found'
    rfl
  | ran _ unknown => cases found.symm.trans unknown

/-- Any other call ends as the run of its program ends. -/
theorem Course.of_run (course : Course env calls p name state ending)
    (free : isReentry p.recursion p.rule state.cursor.pos state.book = false)
    (unknown : remembered (memoKey env.memoMode p state.cursor.pos state.book.guard)
      state.book.memo = none) :
    ∃ inner, Runs env calls p (.at 0 (.fresh p) (begun p name state)) inner ∧
      ending = closed (entryOf env p state) inner := by
  cases course with
  | cut active => cases active.symm.trans free
  | hit _ found => cases unknown.symm.trans found
  | ran _ _ runs => exact ⟨_, runs, rfl⟩

end

end

/-! ## Ends of a call -/

section

variable {p : Program} {name : Option String} {state : ParseState} {e : Entry}
  {outcome : Option Product}

/-- A run begins where the call was. -/
theorem begun_cursor : (begun p name state).cursor = state.cursor := by
  obtain ⟨⟨pos, furthest⟩, ⟨guard, walk, memo, ⟨calls, hits, cuts⟩, trace⟩⟩ := state
  rfl

/-- A run begins with the guard that entering its rule leaves. -/
theorem begun_guard : (begun p name state).book.guard =
    (guardEnter p.recursion p.rule state.cursor.pos state.book).guard := by
  obtain ⟨⟨pos, furthest⟩, ⟨guard, walk, memo, ⟨calls, hits, cuts⟩, trace⟩⟩ := state
  unfold begun guardEnter
  cases p.recursion <;> rfl

/-- A run begins with the walk that entering its rule leaves. -/
theorem begun_walk : (begun p name state).book.walk =
    (guardEnter p.recursion p.rule state.cursor.pos state.book).walk := by
  obtain ⟨⟨pos, furthest⟩, ⟨guard, walk, memo, ⟨calls, hits, cuts⟩, trace⟩⟩ := state
  unfold begun guardEnter
  cases p.recursion <;> rfl

/-- Entering a rule leaves what is remembered as it is. -/
theorem begun_memo : (begun p name state).book.memo = state.book.memo := by
  obtain ⟨⟨pos, furthest⟩, ⟨guard, walk, memo, ⟨calls, hits, cuts⟩, trace⟩⟩ := state
  unfold begun guardEnter
  cases p.recursion <;> rfl

/-- The start of a run and the end of a rule cancel out. -/
theorem leave_begun {book : Book} (guard : book.guard = (begun p name state).book.guard)
    (walk : book.walk = (begun p name state).book.walk) :
    (guardLeave p.recursion state.book.guard book).guard = state.book.guard ∧
      (guardLeave p.recursion state.book.guard book).walk = state.book.walk := by
  obtain ⟨⟨pos, furthest⟩, ⟨guard', walk', memo, ⟨calls, hits, cuts⟩, trace⟩⟩ := state
  unfold begun guardEnter at walk
  unfold guardLeave
  cases check : p.recursion with
  | walk =>
    rw [check] at walk
    exact ⟨rfl, congrArg List.tail walk⟩
  | _ =>
    rw [check] at walk
    exact ⟨rfl, walk⟩

/-- A run that has failed is where it began, and the furthest place stays. -/
theorem leaveRule_cursor : (leaveRule e outcome state).cursor =
    ⟨if outcome.isNone then e.start else state.cursor.pos, state.cursor.furthest⟩ := by
  obtain ⟨⟨pos, furthest⟩, ⟨guard, walk, memo, stats, trace⟩⟩ := state
  cases outcome <;> rfl

/-- Leaving a rule restores the guard. -/
theorem leaveRule_guard : (leaveRule e outcome state).book.guard =
    (guardLeave e.program.recursion e.savedGuard state.book).guard := by
  obtain ⟨⟨pos, furthest⟩, ⟨guard, walk, memo, stats, trace⟩⟩ := state
  cases outcome <;> rfl

/-- Leaving a rule takes it off the walk. -/
theorem leaveRule_walk : (leaveRule e outcome state).book.walk =
    (guardLeave e.program.recursion e.savedGuard state.book).walk := by
  obtain ⟨⟨pos, furthest⟩, ⟨guard, walk, memo, stats, trace⟩⟩ := state
  cases outcome <;> rfl

/-- Leaving a rule remembers its outcome. -/
theorem leaveRule_memo : (leaveRule e outcome state).book.memo =
    remember e.key outcome (if outcome.isNone then e.start else state.cursor.pos)
      state.book.memo := by
  obtain ⟨⟨pos, furthest⟩, ⟨guard, walk, memo, stats, trace⟩⟩ := state
  unfold leaveRule releaseGuard guardLeave
  cases outcome <;> cases e.program.recursion <;> rfl

/-- A run that is left because of a fault stays where it is. -/
theorem abandon_cursor : (abandon e state).cursor = state.cursor := by
  obtain ⟨⟨pos, furthest⟩, ⟨guard, walk, memo, stats, trace⟩⟩ := state
  rfl

/-- It restores the guard, too. -/
theorem abandon_guard : (abandon e state).book.guard =
    (guardLeave e.program.recursion e.savedGuard state.book).guard := by
  obtain ⟨⟨pos, furthest⟩, ⟨guard, walk, memo, stats, trace⟩⟩ := state
  rfl

/-- It takes its rule off the walk, too. -/
theorem abandon_walk : (abandon e state).book.walk =
    (guardLeave e.program.recursion e.savedGuard state.book).walk := by
  obtain ⟨⟨pos, furthest⟩, ⟨guard, walk, memo, stats, trace⟩⟩ := state
  rfl

/-- It remembers nothing. -/
theorem abandon_memo : (abandon e state).book.memo = state.book.memo := by
  obtain ⟨⟨pos, furthest⟩, ⟨guard, walk, memo, stats, trace⟩⟩ := state
  unfold abandon releaseGuard guardLeave
  cases e.program.recursion <;> rfl

end

/-- A rule that is entered at a place is active there. -/
theorem Tracks.begun {guards : Guards} {nextBit : Nat} {active : List (RuleId × Nat)}
    {state : ParseState} (sound : GuardsSound guards nextBit)
    (tracks : Tracks guards active state.cursor.pos state.book) {p : Program}
    (guarded : p.recursion = guardOf guards p.rule) (name : Option String) :
    Tracks guards (entered guards p.rule state.cursor.pos active) state.cursor.pos
      (begun p name state).book := by
  have entering := tracks.enter sound p.rule
  rw [← guarded] at entering
  exact entering.of_eq begun_guard begun_walk

/-! ## Runs of published programs -/

variable {c : RuleCache} {env : Environment} {M : Meanings} {active : List (RuleId × Nat)}
  {rule : RuleId} {pos : Nat}

/-- The program of a published rule, on any text. -/
theorem programOf_of_arena [RegexEngine] (arena : env.arena = c.arena) {h : Handle} {d : RuleDef}
    {p : Program} (entry : c.Published rule h d p) :
    programOf env h = .ok p := by
  obtain ⟨m, there, program⟩ := Option.bind_eq_some_iff.mp entry.program
  simp only [programOf, arena, there, Matcher.program, program]

/-- The program of a published rule. -/
theorem programOf_of_published [RegexEngine] (parse : Parse c env) {h : Handle} {d : RuleDef}
    {p : Program} (entry : c.Published rule h d p) : programOf env h = .ok p :=
  programOf_of_arena parse.arena entry

/-- What is kept twice is kept. -/
theorem Kept.trans {book book' book'' : Book} (first : Kept c env M book book')
    (second : Kept c env M book' book'') : Kept c env M book book'' where
  guard := second.guard.trans first.guard
  walk := second.walk.trans first.walk
  recalls := second.recalls

/-- The calls that a run of a program makes which started at a place: calls of published rules at
places further on, with guard and walk as at the start. -/
def CallsFrom (c : RuleCache) (env : Environment) (M : Meanings) (start : Nat) (book : Book) :
    CallRelation :=
  fun h name state ending => Calls env h name state ending ∧
    Within env.text start state.cursor.pos ∧ Kept c env M book state.book ∧
    ∃ rule : RuleId, c.ready[rule]? = some h

/-- A run of the program of a rule comes to an end if calls of the children do, in one of the ways
in which the rule may come out if the children come out as those calls do, one after the other. -/
theorem run_passes [RegexEngine] (parse : Parse c env) {h : Handle} {d : RuleDef} {p : Program}
    (entry : c.Published rule h d p) (ways : RuleId → Nat → Passage Book Outcome)
    {state : ParseState} (le : state.cursor.pos ≤ env.text.utf8ByteSize)
    (tracks : Tracks c.guards active state.cursor.pos state.book)
    (recalls : Recalls c env M state.book.memo)
    (below : ∀ child ∈ (lowerRule c.grammar c.model rule).requests, ∀ pos,
      Within env.text state.cursor.pos pos → Comes c env M active child pos)
    (passes : ∀ (child : RuleId) (h : Handle) (name : Option String) (s : ParseState)
      (ending : Ending) (out : Outcome), c.ready[child]? = some h → Calls env h name s ending →
      Realizes (c.grammar.outputOf child) out ending →
      Within env.text s.cursor.pos ending.2.cursor.pos → M active child s.cursor.pos out →
      ways child s.cursor.pos s.book out ending.2.book) :
    ∃ ending, Runs env (CallsFrom c env M state.cursor.pos state.book) p (.at 0 (.fresh p) state)
        ending ∧
      Concluded env.text (c.grammar.outputOf rule) (Kept c env M state.book) state.cursor.pos
        (fun out => Meaning.rule ways env (contextOf c rule) state.cursor.pos d.rule state.book out
          ending.2.book) ending := by
  obtain ⟨⟨start, furthest⟩, book⟩ := state
  have sound : Scene.Sound ⟨env, CallsFrom c env M start book, p, c.grammar, ways,
      Kept c env M book, start⟩ := by
    refine ⟨parse.short, le, fun i child h' callee name state within kept => ?_⟩
    obtain ⟨requested, ready⟩ := entry.callees i child h' callee
    have tracks' := (tracks.later within.le).of_eq kept.guard kept.walk
    obtain ⟨ending, calls, concluded, undone⟩ := below child requested state.cursor.pos within h'
      name state ready rfl tracks' kept.recalls
    refine ⟨ending, ⟨calls, within, kept, child, ready⟩, ?_, undone⟩
    refine ⟨concluded.outcome.imp_left ?_, concluded.within, kept.trans concluded.good⟩
    rintro ⟨out, comes, realizes⟩
    exact ⟨out, passes child h' name state ending out ready calls realizes concluded.within comes,
      realizes⟩
  have concludes := entry.compiled.concludes parse.inferred parse.record sound rfl parse.model book
    (.fresh p)
  obtain ⟨ending, runs, concluded⟩ :=
    concludes (Registers.fits_fresh p) .refl ⟨rfl, rfl, recalls⟩ furthest
  refine ⟨ending, runs, ?_⟩
  rw [entry.compiled.output] at concluded
  exact concluded

/-- What children may come out as, whatever the book. -/
theorem forgetful_related : Meaning.Related (fun _ => True)
    fun (act : Passage Book Outcome) (act' : Choice Outcome) =>
      ∀ book out book', act book out book' → act' out where
  pure _ _ _ _ _ same := same.1
  bind _ _ _ _ first second := by
    rintro book out book' ⟨mid, book₁, here, there⟩
    exact ⟨mid, first book mid book₁ here, second mid trivial book₁ out book' there⟩

/-- A run of the program of a rule comes to an end in one of the ways in which the rule may come
out, if calls of the children do. -/
theorem run_concludes [RegexEngine] (parse : Parse c env) {h : Handle} {d : RuleDef} {p : Program}
    (entry : c.Published rule h d p)
    {state : ParseState} (le : state.cursor.pos ≤ env.text.utf8ByteSize)
    (tracks : Tracks c.guards active state.cursor.pos state.book)
    (recalls : Recalls c env M state.book.memo)
    (below : ∀ child ∈ (lowerRule c.grammar c.model rule).requests, ∀ pos,
      Within env.text state.cursor.pos pos → Comes c env M active child pos) :
    ∃ ending, Runs env (CallsFrom c env M state.cursor.pos state.book) p (.at 0 (.fresh p) state)
        ending ∧
      Concluded env.text (c.grammar.outputOf rule) (Kept c env M state.book) state.cursor.pos
        (Meaning.rule (M active) env (contextOf c rule) state.cursor.pos d.rule) ending := by
  obtain ⟨ending, runs, concluded⟩ := run_passes parse entry
    (fun child pos _ out _ => M active child pos out) le tracks recalls below
    fun _ _ _ _ _ _ _ _ _ _ comes => comes
  refine ⟨ending, runs, concluded.mono fun out comes => ?_⟩
  refine Meaning.rule_related forgetful_related ⟨fun _ _ => trivial, trivial⟩ ?_
    (fun _ _ _ _ _ _ _ _ _ _ => trivial) env state.cursor.pos state.book out ending.2.book comes
  exact fun _ _ _ _ _ comes => comes

/-! ## Calls of published rules -/

/-- If outcomes are remembered, it is by rule and place, whatever else. -/
theorem memoKey_place {mode : MemoMode} {p : Program} {guard : Guard} {key : MemoKey}
    (made : memoKey mode p pos guard = some key) :
    mode ≠ .off ∧ key.rule = p.rule ∧ key.pos = pos := by
  unfold memoKey at made
  split at made
  · cases made
  · cases mode <;> cases made <;> exact ⟨nofun, rfl, rfl⟩

/-- What is remembered after a call was before, or is the outcome of the call. -/
theorem remember_cases {made : Option MemoKey} {outcome : Option Product} {stop : Nat}
    {memo : MemoTable} {key : MemoKey} {entry : MemoEntry}
    (there : (remember made outcome stop memo)[key]? = some entry) :
    memo[key]? = some entry ∨ made = some key ∧
      (∀ product, outcome = some product → entry = .success stop product) ∧
      (outcome = none → entry = .failure) := by
  cases made with
  | none => exact .inl there
  | some made =>
    unfold remember at there
    dsimp only at there
    rw [Std.HashMap.getElem?_insert] at there
    split at there
    case isFalse => exact .inl there
    case isTrue isKey =>
      refine .inr ⟨congrArg some (eq_of_beq isKey), ?_, ?_⟩
      · rintro product rfl
        exact (Option.some.inj there).symm
      · rintro rfl
        exact (Option.some.inj there).symm

/-- Remembering one of the ways in which a rule may come out. -/
theorem Recalls.remember [RegexEngine] (closed : Closed c env M) {memo : MemoTable}
    (recalls : Recalls c env M memo) {p : Program} (named : p.rule = rule) {guard : Guard}
    {outcome : Option Product} {stop : Nat}
    (success : ∀ product, outcome = some product → ∃ value,
      Denotes (c.grammar.outputOf rule) product value ∧ M active rule pos (.matched value stop) ∧
        Within env.text pos stop)
    (failure : outcome = none → M active rule pos .failed) :
    Recalls c env M (remember (memoKey env.memoMode p pos guard) outcome stop memo) := by
  intro on key entry there
  obtain there | ⟨made, matched, failed⟩ := remember_cases there
  · exact recalls on key entry there
  · obtain ⟨_, sameRule, samePos⟩ := memoKey_place made
    rw [sameRule, named, samePos]
    cases outcome with
    | none =>
      rw [failed rfl]
      exact closed.context on _ _ _ _ _ (failure rfl)
    | some product =>
      rw [matched product rfl]
      obtain ⟨value, denotes, comes, within⟩ := success product rfl
      exact ⟨value, denotes, closed.context on _ _ _ _ _ comes, within⟩

section

variable {p : Program} {name : Option String} {state after : ParseState}

/-- The end of the call of a rule whose program ended with a fault. -/
theorem fault_concluded {fault : EngineFault}
    (concluded : Concluded env.text (c.grammar.outputOf rule)
      (Kept c env M (begun p name state).book) state.cursor.pos
      (M active rule state.cursor.pos) (.error fault, after)) :
    Concluded env.text (c.grammar.outputOf rule) (Kept c env M state.book) state.cursor.pos
      (M active rule state.cursor.pos)
      (Machine.closed (entryOf env p state) (.error fault, after)) := by
  obtain ⟨outcome, within, kept⟩ := concluded
  obtain ⟨guard, walk⟩ := leave_begun kept.guard kept.walk
  refine ⟨?_, ?_, abandon_guard.trans guard, abandon_walk.trans walk, ?_⟩
  · rcases outcome with ⟨out, comes, realizes⟩ | misplaced
    · obtain rfl := realizes.of_fault
      exact .inl ⟨.faulted fault, comes, rfl⟩
    · exact .inr misplaced
  · rw [Machine.closed, abandon_cursor]
    exact within
  · rw [Machine.closed, abandon_memo]
    exact kept.recalls

/-- The end of the call of a rule whose program ended without a fault. -/
theorem outcome_concluded [RegexEngine] (closed : Closed c env M) (named : p.rule = rule)
    {outcome : Option Product}
    (concluded : Concluded env.text (c.grammar.outputOf rule)
      (Kept c env M (begun p name state).book) state.cursor.pos
      (M active rule state.cursor.pos) (.ok outcome, after)) :
    Concluded env.text (c.grammar.outputOf rule) (Kept c env M state.book) state.cursor.pos
        (M active rule state.cursor.pos)
        (Machine.closed (entryOf env p state) (.ok outcome, after)) ∧
      (outcome = none →
        (leaveRule (entryOf env p state) outcome after).cursor.pos = state.cursor.pos) := by
  obtain ⟨out, comes, realizes⟩ := concluded.of_ok
  obtain ⟨_, within, kept⟩ := concluded
  obtain ⟨guard, walk⟩ := leave_begun kept.guard kept.walk
  have stop : (leaveRule (entryOf env p state) outcome after).cursor.pos =
      if outcome.isNone then state.cursor.pos else after.cursor.pos := by
    rw [leaveRule_cursor]
    rfl
  have recalls : Recalls c env M (leaveRule (entryOf env p state) outcome after).book.memo := by
    have failure (failed : outcome = none) : M active rule state.cursor.pos .failed := by
      subst failed
      obtain rfl := realizes.of_failure
      exact comes
    rw [leaveRule_memo]
    refine kept.recalls.remember closed named ?_ failure
    rintro product rfl
    obtain ⟨value, rfl, denotes⟩ := realizes.of_product
    exact ⟨value, denotes, comes, within⟩
  have kept' : Kept c env M state.book (leaveRule (entryOf env p state) outcome after).book :=
    ⟨leaveRule_guard.trans guard, leaveRule_walk.trans walk, recalls⟩
  cases outcome with
  | none =>
    obtain rfl := realizes.of_failure
    refine ⟨⟨.inl ⟨.failed, comes, rfl⟩, ?_, kept'⟩, fun _ => stop⟩
    rw [Machine.closed, stop]
    exact .refl
  | some product =>
    obtain ⟨value, rfl, denotes⟩ := realizes.of_product
    refine ⟨⟨.inl ⟨_, comes, product, rfl, denotes, stop⟩, ?_, kept'⟩, nofun⟩
    rw [Machine.closed, stop]
    exact within

/-- The end of the call of a rule whose program ran. -/
theorem closed_concluded [RegexEngine] (closed : Closed c env M) {h : Handle} {d : RuleDef}
    (published : c.Published rule h d p) {ending : Ending}
    (concluded : Concluded env.text (c.grammar.outputOf rule)
      (Kept c env M (begun p name state).book) state.cursor.pos
      (M active rule state.cursor.pos) ending) :
    Concluded env.text (c.grammar.outputOf rule) (Kept c env M state.book) state.cursor.pos
        (M active rule state.cursor.pos) (Machine.closed (entryOf env p state) ending) ∧
      ((Machine.closed (entryOf env p state) ending).1 = .ok none →
        (Machine.closed (entryOf env p state) ending).2.cursor.pos = state.cursor.pos) := by
  obtain ⟨ended, after⟩ := ending
  cases ended with
  | error fault => exact ⟨fault_concluded concluded, nofun⟩
  | ok outcome =>
    obtain ⟨ends, undone⟩ := outcome_concluded closed published.compiled.rule concluded
    exact ⟨ends, fun failed => undone (Except.ok.inj failed)⟩

end

/-- A call that the memo table answers comes out as the meaning says. -/
theorem comes_of_remembered [RegexEngine] (closed : Closed c env M) {h : Handle} {p : Program}
    {name : Option String} {state : ParseState} {entry : MemoEntry}
    (program : programOf env h = .ok p) (named : p.rule = rule)
    (free : isReentry p.recursion p.rule state.cursor.pos state.book = false)
    (found : remembered (memoKey env.memoMode p state.cursor.pos state.book.guard)
      state.book.memo = some entry) (recalls : Recalls c env M state.book.memo) :
    ∃ ending, Calls env h name state ending ∧
      Concluded env.text (c.grammar.outputOf rule) (Kept c env M state.book) state.cursor.pos
        (M active rule state.cursor.pos) ending ∧
      (ending.1 = .ok none → ending.2.cursor.pos = state.cursor.pos) := by
  obtain ⟨key, made, there⟩ := Option.bind_eq_some_iff.mp found
  obtain ⟨on, sameRule, samePos⟩ := memoKey_place made
  have recalled := recalls on key entry there
  rw [sameRule, named, samePos] at recalled
  cases entry with
  | success stop product =>
    obtain ⟨value, denotes, comes, within⟩ := recalled
    exact ⟨_, calls_iff.mpr (.answered program (enterRule_success free found)),
      ⟨.inl ⟨.matched value stop, closed.context on _ _ _ _ _ comes, product, rfl, denotes, rfl⟩,
        within, rfl, rfl, recalls⟩, nofun⟩
  | failure =>
    exact ⟨_, calls_iff.mpr (.answered program (enterRule_failure free found)),
      ⟨.inl ⟨.failed, closed.context on _ _ _ _ _ recalled, rfl⟩, .refl, rfl, rfl, recalls⟩,
      fun _ => rfl⟩

/-- Calls of a rule come out as the meaning says if calls of its children do. -/
theorem comes_of_below [RegexEngine] (parse : Parse c env) (closed : Closed c env M)
    (le : pos ≤ env.text.utf8ByteSize)
    (below : (rule, pos) ∉ active → ∀ child ∈ (lowerRule c.grammar c.model rule).requests,
      ∀ pos', Within env.text pos pos' →
        Comes c env M (entered c.guards rule pos active) child pos') :
    Comes c env M active rule pos := by
  rintro h name state ready rfl tracks recalls
  obtain ⟨d, p, published⟩ := parse.cache.entries rule h ready
  have program := programOf_of_published parse published
  have named := published.compiled.rule
  have guarded : p.recursion = guardOf c.guards rule := published.recursion
  have reentry := tracks.reentry rule state.cursor.pos (Nat.le_refl _)
  rw [← guarded, ← named] at reentry
  cases free : isReentry p.recursion p.rule state.cursor.pos state.book with
  | true =>
    have member := named ▸ reentry.mp free
    have cut := closed.cut active rule state.cursor.pos (tracks.guarded _ member) member
    exact ⟨_, calls_iff.mpr (.answered program (enterRule_cut free)),
      ⟨.inl ⟨.failed, cut, rfl⟩, .refl, rfl, rfl, recalls⟩, fun _ => rfl⟩
  | false =>
    have idle : (rule, state.cursor.pos) ∉ active := by
      intro member
      rw [reentry.mpr (named.symm ▸ member)] at free
      cases free
    cases found : remembered (memoKey env.memoMode p state.cursor.pos state.book.guard)
      state.book.memo with
    | some entry => exact comes_of_remembered closed program named free found recalls
    | none =>
      have enter := @enterRule_run env p name state free found
      have cursor : (begun p name state).cursor = state.cursor := begun_cursor
      have tracks' : Tracks c.guards (entered c.guards rule state.cursor.pos active)
          (begun p name state).cursor.pos (begun p name state).book := by
        rw [cursor, ← named]
        exact tracks.begun parse.cache.guards (named ▸ guarded) name
      have inside : (begun p name state).cursor.pos ≤ env.text.utf8ByteSize := by
        rw [cursor]
        exact le
      obtain ⟨ending, runs, concluded⟩ := run_concludes parse published (M := M) inside tracks'
        (by rw [begun_memo]; exact recalls) (by rw [cursor]; exact below idle)
      rw [cursor] at concluded
      refine ⟨_, calls_iff.mpr (.ran program enter (runs.mono fun _ _ _ _ call => call.1)),
        closed_concluded closed published (concluded.mono fun out comes => ?_)⟩
      exact closed.rule active rule state.cursor.pos d published.compiled.found idle out comes

/-! ## Every call -/

/-- How many guarded rules are not active at a place. -/
def freeGuards (guards : Guards) (active : List (RuleId × Nat)) (pos : Nat) : Nat :=
  (guards.keys.filter fun rule => !active.contains (rule, pos)).length

/-- Entering a guarded rule that is not active leaves fewer free ones. -/
theorem freeGuards_lt {guards : Guards} (given : guards.contains rule = true)
    (idle : (rule, pos) ∉ active) :
    freeGuards guards ((rule, pos) :: active) pos < freeGuards guards active pos := by
  have present : rule ∈ guards.keys.filter fun rule => !active.contains (rule, pos) := by
    refine List.mem_filter.mpr ⟨?_, by simpa using idle⟩
    rw [Std.HashMap.mem_keys, ← Std.HashMap.contains_iff_mem]
    exact given
  unfold freeGuards
  have fewer : (guards.keys.filter fun rule' => !((rule, pos) :: active).contains (rule', pos)) =
      (guards.keys.filter fun rule' => !active.contains (rule', pos)).filter
        fun rule' => !(rule' == rule) := by
    rw [List.filter_filter]
    refine List.filter_congr fun rule' _ => ?_
    have pair : ((rule', pos) == (rule, pos)) = (rule' == rule && pos == pos) := rfl
    rw [List.contains_cons, Bool.not_or, pair, BEq.rfl, Bool.and_true, Bool.and_comm]
  rw [fewer]
  refine List.length_filter_lt_length_iff_exists.mpr ⟨rule, present, by simp⟩

/-- Every call of a published rule comes out as a closed meaning says. -/
theorem comes [RegexEngine] (parse : Parse c env) (closed : Closed c env M)
    (active : List (RuleId × Nat)) (rule : RuleId) (le : pos ≤ env.text.utf8ByteSize) :
    Comes c env M active rule pos := by
  -- Bytes left, then free guards.
  induction bytes : env.text.utf8ByteSize - pos using Nat.strongRecOn
    generalizing active rule pos with
  | ind bytes ihBytes =>
  induction free : freeGuards c.guards active pos using Nat.strongRecOn
    generalizing active rule with
  | ind free ihFree =>
  have further {active : List (RuleId × Nat)} {child : RuleId} {pos' : Nat}
      (within : Within env.text pos pos') (moved : pos' ≠ pos) :
      Comes c env M active child pos' := by
    have le' := within.le
    have inside := within.le_size le
    exact ihBytes _ (by omega) active child inside rfl
  -- A guarded rule takes a free guard with it.
  have guarded (rule : RuleId) (given : c.guards.contains rule = true) :
      Comes c env M active rule pos := by
    refine comes_of_below parse closed le fun idle child _ pos' within => ?_
    by_cases moved : pos' = pos
    · subst moved
      rw [entered, if_pos given]
      exact ihFree _ (free ▸ freeGuards_lt given idle) _ child rfl
    · exact further within moved
  -- A chain of calls of rules without guards gets shorter.
  have grounded {rule : RuleId} (grounded : Grounded c.grammar c.model c.guards rule) :
      Comes c env M active rule pos := by
    induction grounded with
    | @intro rule _ ih =>
      by_cases given : c.guards.contains rule = true
      · exact guarded rule given
      refine comes_of_below parse closed le fun _ child member pos' within => ?_
      by_cases moved : pos' = pos
      · subst moved
        rw [entered, if_neg given]
        by_cases given' : c.guards.contains child = true
        · exact guarded child given'
        · exact ih child member (Bool.not_eq_true _ ▸ given')
      · exact further within moved
  intro h name state ready
  obtain ⟨d, p, published⟩ := parse.cache.entries rule h ready
  exact grounded published.grounded h name state ready

end Packrat.Machine
