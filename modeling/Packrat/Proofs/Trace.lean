import Packrat.Proofs.Machine.Step
import Packrat.Proofs.Matching

/-!
# What a trace records

A trace records where rules are entered and left. Whatever the programs are, and however a match
ends, the rules entered are left in the order of their nesting: a fault leaves the rules that it
ends, too. Every rule entered is one whose program runs, so the counters say how many there are.

* `openAfter`: the rules that are open after some events.
* `executed`: how many calls have run a program, by the counters.
* `leaving`: the event of leaving a rule.
* `Recorded`: what the events of a part of a parse are like.

Main statement: `match_trace`.
-/

namespace Packrat.Machine

/-! ## Nesting -/

/-- The rules that are open after some events, innermost first, where some are open before. Nothing
if a rule is left that is not the one entered last. -/
def openAfter : List RuleId → List Event → Option (List RuleId)
  | opened, [] => some opened
  | opened, .push rule _ :: events => openAfter (rule :: opened) events
  | rule :: opened, .pop rule' _ _ _ _ :: events =>
    if rule = rule' then openAfter opened events else none
  | [], .pop _ _ _ _ _ :: _ => none

/-- Two stretches of a trace open and close rules one after the other. -/
theorem openAfter_append (events events' : List Event) (opened : List RuleId) :
    openAfter opened (events ++ events') =
      (openAfter opened events).bind fun opened => openAfter opened events' := by
  induction events generalizing opened with
  | nil => rfl
  | cons event events ih =>
    cases event with
    | push rule name => exact ih (rule :: opened)
    | pop rule success value start stop =>
      cases opened with
      | nil => rfl
      | cons top opened =>
        simp only [List.cons_append, openAfter]
        split
        · exact ih opened
        · rfl

/-- How many rules are entered. -/
def pushes (events : List Event) : Nat :=
  events.countP fun
    | .push _ _ => true
    | .pop _ _ _ _ _ => false

/-- How many calls have run a program: all but those that were answered from the memo table or
refused by the guard. -/
def executed (stats : Stats) : Int := stats.calls - stats.memoHits - stats.recursionCuts

/-! ## Parts of a parse -/

/-- All programs are traced. -/
def Traced (env : Environment) : Prop :=
  ∀ (h : Handle) (p : Program), programOf env h = .ok p → p.traced = true

/-- The events that a part of a parse records: whatever is open, the rules entered are left again;
where a rule failed there is no value and no text; and each of the runs is recorded, if all programs
are traced. -/
structure Recorded (env : Environment) (s s' : ParseState) (events : List Event) : Prop where
  trace : s'.book.trace = s.book.trace.map fun before => before ++ events.toArray
  nested : ∀ opened, openAfter opened events = some opened
  failed : ∀ (rule : RuleId) (value : Option Value) (start stop : Nat),
    .pop rule false value start stop ∈ events → value = none ∧ start = stop
  counted : Traced env → (pushes events : Int) = executed s'.book.stats - executed s.book.stats

variable {env : Environment} {s s' s'' : ParseState} {events events' : List Event}

/-- Nothing is recorded where neither the trace nor the number of runs changes. -/
theorem Recorded.none (trace : s'.book.trace = s.book.trace)
    (runs : executed s'.book.stats = executed s.book.stats) : Recorded env s s' [] where
  trace := by
    rw [trace]
    cases s.book.trace <;> simp
  nested _ := rfl
  failed := nofun
  counted _ := by
    rw [runs, Int.sub_self]
    rfl

/-- One part of a parse after another. -/
theorem Recorded.append (first : Recorded env s s' events)
    (second : Recorded env s' s'' events') : Recorded env s s'' (events ++ events') where
  trace := by
    rw [second.trace, first.trace]
    cases s.book.trace <;> simp
  nested opened := by
    rw [openAfter_append, first.nested]
    exact second.nested opened
  failed rule value start stop there := by
    rcases List.mem_append.mp there with there | there
    · exact first.failed rule value start stop there
    · exact second.failed rule value start stop there
  counted traced := by
    have before := first.counted traced
    have after := second.counted traced
    simp only [pushes] at before after
    simp only [pushes, List.countP_append, Int.natCast_add, before, after]
    omega

/-! ## Stages of a call -/

section

variable {p : Program} {name : Option String} {e : Entry} {outcome : Option Product}

/-- A run that begins records a push. -/
theorem begun_trace : (begun p name s).book.trace = record p (.push p.rule name) s.book.trace := by
  obtain ⟨cursor, ⟨guard, walk, memo, ⟨calls, hits, cuts⟩, trace⟩⟩ := s
  unfold begun guardEnter
  cases p.recursion <;> rfl

/-- A run that begins counts its call and nothing else. -/
theorem begun_stats : (begun p name s).book.stats = (countCall s).book.stats := by
  obtain ⟨cursor, ⟨guard, walk, memo, ⟨calls, hits, cuts⟩, trace⟩⟩ := s
  unfold begun guardEnter
  cases p.recursion <;> rfl

/-- A run that begins is one more rule executed. -/
theorem begun_executed : executed (begun p name s).book.stats = executed s.book.stats + 1 := by
  obtain ⟨cursor, ⟨guard, walk, memo, ⟨calls, hits, cuts⟩, trace⟩⟩ := s
  rw [begun_stats]
  simp only [countCall, executed]
  omega

/-- Leaving a rule records a pop. -/
theorem leaveRule_trace : (leaveRule e outcome s).book.trace =
    record e.program (popEvent e.program outcome e.start
      (if outcome.isNone then e.start else s.cursor.pos)) s.book.trace := by
  obtain ⟨⟨pos, furthest⟩, ⟨guard, walk, memo, stats, trace⟩⟩ := s
  unfold leaveRule releaseGuard guardLeave
  cases outcome <;> cases e.program.recursion <;> rfl

/-- Leaving a rule counts nothing. -/
theorem leaveRule_stats : (leaveRule e outcome s).book.stats = s.book.stats := by
  obtain ⟨⟨pos, furthest⟩, ⟨guard, walk, memo, stats, trace⟩⟩ := s
  unfold leaveRule releaseGuard guardLeave
  cases outcome <;> cases e.program.recursion <;> rfl

/-- A run that is given up records the pop of a failure. -/
theorem abandon_trace : (abandon e s).book.trace =
    record e.program (popEvent e.program none e.start e.start) s.book.trace := by
  obtain ⟨cursor, ⟨guard, walk, memo, stats, trace⟩⟩ := s
  unfold abandon releaseGuard guardLeave
  cases e.program.recursion <;> rfl

/-- A run that is given up counts nothing. -/
theorem abandon_stats : (abandon e s).book.stats = s.book.stats := by
  obtain ⟨cursor, ⟨guard, walk, memo, stats, trace⟩⟩ := s
  unfold abandon releaseGuard guardLeave
  cases e.program.recursion <;> rfl

/-- The event of leaving a rule where its run ends. -/
def leaving (e : Entry) : Ending → Event
  | (.ok outcome, s) =>
    popEvent e.program outcome e.start (if outcome.isNone then e.start else s.cursor.pos)
  | (.error _, _) => popEvent e.program none e.start e.start

/-- However a run ends, the rule is left. -/
theorem closed_trace (e : Entry) (ending : Ending) :
    (closed e ending).2.book.trace = record e.program (leaving e ending) ending.2.book.trace := by
  obtain ⟨fault | outcome, state⟩ := ending
  · exact abandon_trace
  · exact leaveRule_trace

/-- The event of leaving a rule has no value and no text if the rule failed. -/
theorem leaving_eq (e : Entry) (ending : Ending) : ∃ success value stop,
    leaving e ending = .pop e.program.rule success value e.start stop ∧
      (success = false → value = none ∧ e.start = stop) := by
  obtain ⟨fault | outcome, state⟩ := ending
  · exact ⟨_, _, _, rfl, fun _ => ⟨rfl, rfl⟩⟩
  · refine ⟨_, _, _, rfl, fun failed => ?_⟩
    cases outcome with
    | none => exact ⟨rfl, rfl⟩
    | some product => cases failed

/-- Closing a run counts nothing. -/
theorem closed_stats (e : Entry) (ending : Ending) :
    (closed e ending).2.book.stats = ending.2.book.stats := by
  obtain ⟨fault | outcome, state⟩ := ending
  · exact abandon_stats
  · exact leaveRule_stats

/-- The events of a call whose program runs: those of the run, between the one of entering the rule
and the one of leaving it if the program is traced. -/
theorem Recorded.closed {ending : Ending} (program : ∃ h, programOf env h = .ok p)
    (inner : Recorded env (begun p name s) ending.2 events) :
    ∃ events', Recorded env s (Machine.closed (entryOf env p s) ending).2 events' := by
  have trace := closed_trace (entryOf env p s) ending
  obtain ⟨success, value, stop, left, failed⟩ := leaving_eq (entryOf env p s) ending
  rw [left] at trace
  have stats := closed_stats (entryOf env p s) ending
  have started := inner.trace
  rw [begun_trace] at started
  rw [started] at trace
  by_cases traced : p.traced = true
  · refine ⟨.push p.rule name :: (events ++ [.pop p.rule success value s.cursor.pos stop]),
      ?_, ?_, ?_, ?_⟩
    · rw [trace]
      simp only [record, entryOf, if_pos traced]
      cases s.book.trace <;> simp
    · intro opened
      simp only [openAfter, openAfter_append, inner.nested, Option.bind_some, if_true]
    · intro rule value' start' stop' there
      simp only [List.mem_cons, List.mem_append, List.not_mem_nil, or_false, reduceCtorEq,
        false_or] at there
      rcases there with there | there
      · exact inner.failed rule value' start' stop' there
      · cases there
        exact failed rfl
    · intro all
      have ran := inner.counted all
      rw [begun_executed] at ran
      rw [stats]
      simp only [pushes] at ran ⊢
      simp only [List.countP_cons, List.countP_append, List.countP_nil, if_true]
      push_cast
      simp
      omega
  · refine ⟨events, ?_, inner.nested, inner.failed, ?_⟩
    · rw [trace]
      simp only [record, entryOf, if_neg traced]
    · intro all
      obtain ⟨h, program⟩ := program
      exact absurd (all h p program) traced

/-- A replay records nothing. -/
theorem replayed_trace (entry : MemoEntry) : (replayed entry s).2.book.trace = s.book.trace := by
  cases entry <;> rfl

/-- A replay executes no rule. -/
theorem replayed_executed (entry : MemoEntry) :
    executed (replayed entry s).2.book.stats = executed s.book.stats := by
  obtain ⟨⟨pos, furthest⟩, ⟨guard, walk, memo, ⟨calls, hits, cuts⟩, trace⟩⟩ := s
  cases entry <;>
    · simp only [replayed, moveTo, countHit, countCall, executed]
      omega

/-- A cut executes no rule. -/
theorem countCut_executed :
    executed (countCut (countCall s)).book.stats = executed s.book.stats := by
  obtain ⟨cursor, ⟨guard, walk, memo, ⟨calls, hits, cuts⟩, trace⟩⟩ := s
  simp only [countCut, countCall, executed]
  omega

/-! ## Calls -/

/-- The events of a run are those of its calls. -/
theorem Runs.recorded {calls : CallRelation} {turn : Turn} {ending : Ending}
    (below : ∀ h name s e, calls h name s e → ∃ events, Recorded env s e.2 events)
    (runs : Runs env calls p turn ending) : ∃ events, Recorded env turn.state ending.2 events := by
  induction runs with
  | @step pc regs state _ _ ih =>
    obtain ⟨events, recorded⟩ := ih
    have book := @performed_book env p pc regs state
    have quiet : Recorded env state (performed env p pc regs state).state [] :=
      .none (by rw [book]) (by rw [book])
    exact ⟨_, quiet.append recorded⟩
  | faulted call => exact below _ _ _ _ call
  | @called _ _ dst onFail pc regs _ state' outcome _ call _ ih =>
    obtain ⟨events, recorded⟩ := below _ _ _ _ call
    obtain ⟨events', recorded'⟩ := ih
    have book := resumed_book p pc regs dst onFail outcome state'
    have quiet : Recorded env state' (resumed p pc regs dst onFail outcome state').state [] :=
      .none (by rw [book]) (by rw [book])
    exact ⟨_, recorded.append (quiet.append recorded')⟩
  | done => exact ⟨[], .none rfl rfl⟩

/-- The events of a call. -/
theorem CallsWithin.recorded {depth : Nat} {h : Handle} {ending : Ending}
    (call : CallsWithin env depth h name s ending) : ∃ events, Recorded env s ending.2 events := by
  induction depth generalizing h name s ending with
  | zero => exact call.elim
  | succ depth ih =>
    rcases Answers.goes call with ⟨fault, _, rfl⟩ | ⟨p, program, course⟩
    · exact ⟨[], .none rfl rfl⟩
    · cases course with
      | cut => exact ⟨[], .none rfl countCut_executed⟩
      | hit => exact ⟨[], .none (replayed_trace _) (replayed_executed _)⟩
      | ran _ _ runs =>
        obtain ⟨events, inner⟩ := runs.recorded fun _ _ _ _ call => ih call
        exact Recorded.closed ⟨h, program⟩ inner

end

/-! ## Matches -/

/-- The events that a match adds to a trace, whatever the programs, the text and the state of the
parse are, and whether the match succeeds, fails or ends with a fault: each rule left is the one
entered last of those that were not left before, and none stays open; where a rule failed there is
no value and no text; and if all programs are traced then the rules entered are as many as the calls
that were neither refused nor answered from the memo table. -/
theorem match_trace (env : Environment) (h : Handle) {fuel : Nat} {state state' : ParseState}
    {before : Array Event} (kept : state.book.trace = some before)
    {outcome : Except EngineFault (Option Value)}
    (found : matchRule env fuel h state = some (outcome, state')) :
    ∃ events : List Event, state'.book.trace = some (before ++ events.toArray) ∧
      openAfter [] events = some [] ∧
      (∀ (rule : RuleId) (value : Option Value) (start stop : Nat),
        .pop rule false value start stop ∈ events → value = none ∧ start = stop) ∧
      ((∀ (h : Handle) (p : Program), programOf env h = .ok p → p.traced = true) →
        (pushes events : Int) = executed state'.book.stats - executed state.book.stats) := by
  obtain ⟨value, ending, ⟨depth, call⟩, same⟩ := calls_of_matchRule found
  cases same
  obtain ⟨events, recorded⟩ := call.recorded
  refine ⟨events, ?_, recorded.nested [], recorded.failed, recorded.counted⟩
  rw [recorded.trace, kept]
  rfl

/-- A program that no compiler would make. -/
def strayProgram (rule : RuleId) (code : Array Instruction) : Program where
  name := "stray"
  rule := rule
  code := code
  labels := #[]
  intSlots := 0
  objSlots := 0
  consts := #[]
  callees := #[⟨⟨1⟩, some ⟨1⟩⟩]
  output := .void
  result := none
  concrete := false
  traced := true
  recursion := .none

/-- A rule that calls another one, which sets a register that it does not have. -/
def strayEnvironment : Environment :=
  ⟨"", RecordModel.empty.toObjectModel, .null, .precise,
    #[⟨⟨0⟩, "outer", some (strayProgram ⟨0⟩ #[.call ⟨0⟩ (some "part") none ⟨0⟩])⟩,
      ⟨⟨1⟩, "inner", some (strayProgram ⟨1⟩ #[.loadImm ⟨0⟩ 0])⟩]⟩

/-- Both rules are left when the inner one ends with a fault. -/
theorem match_trace_stray : ∃ events : List Event,
    some #[.push ⟨0⟩ none, .push ⟨1⟩ (some "part"), .pop ⟨1⟩ false none 0 0,
      .pop ⟨0⟩ false none 0 0] = some (#[] ++ events.toArray) ∧
      openAfter [] events = some [] ∧
      (∀ (rule : RuleId) (value : Option Value) (start stop : Nat),
        .pop rule false value start stop ∈ events → value = none ∧ start = stop) ∧
      ((∀ (h : Handle) (p : Program), programOf strayEnvironment h = .ok p → p.traced = true) →
        (pushes events : Int) = executed ⟨2, 0, 0⟩ - executed ⟨0, 0, 0⟩) := by
  have found : matchRule strayEnvironment 3 ⟨0⟩ (.initial true) =
      some (.error (.slotOutOfRange "stray" "int" 0 0), ⟨⟨0, 0⟩, ⟨⟨0, 0⟩, [], ∅, ⟨2, 0, 0⟩,
        some #[.push ⟨0⟩ none, .push ⟨1⟩ (some "part"), .pop ⟨1⟩ false none 0 0,
          .pop ⟨0⟩ false none 0 0]⟩⟩) := rfl
  exact match_trace strayEnvironment ⟨0⟩ rfl found

end Packrat.Machine
