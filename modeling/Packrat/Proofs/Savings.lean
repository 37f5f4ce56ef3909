import Packrat.Proofs.Trace
import Packrat.Proofs.Uncut

/-!
# What memoization saves

A match that remembers outcomes by rule, place and active rules does no more than one that remembers
nothing. Where an outcome is remembered, the match that remembers nothing calls the rule once more,
with all that this records and counts; everything else happens on both sides, in the same order.

* `callCount`: how many calls were made.
* `TracesWithin`: what one trace records, another one records, too.
* `Saves`: parse states without memory and with it, the latter with a trace and counters that are
  no greater.

Main statements: `Calls.counted`, `lasting_saves` and `match_saves`.
-/

namespace Packrat.Machine

/-! ## Counting calls -/

/-- How many calls were made. -/
def callCount (state : ParseState) : Nat := state.book.stats.calls

section

variable {env : Environment} {p : Program} {h : Handle} {name : Option String} {s : ParseState}
  {ending : Ending}

/-- An instruction is not counted as a call. -/
theorem performed_callCount (pc : Nat) (regs : Registers) :
    callCount (performed env p pc regs s).state = callCount s := by
  simp [callCount, performed_book]

/-- Going on behind a call is not counted again. -/
theorem resumed_callCount (pc : Nat) (regs : Registers) (dst : Option Slot) (onFail : Label)
    (outcome : Option Product) :
    callCount (resumed p pc regs dst onFail outcome s).state = callCount s := by
  simp [callCount, resumed_book]

/-- A run that begins is counted as one call. -/
@[simp] theorem begun_callCount : callCount (begun p name s) = callCount s + 1 := by
  rw [callCount, begun_stats]
  rfl

/-- A replay is counted as one call. -/
@[simp] theorem replayed_callCount (entry : MemoEntry) :
    callCount (replayed entry s).2 = callCount s + 1 := by
  cases entry <;> rfl

/-- Leaving a rule is not counted. -/
@[simp] theorem closed_callCount (e : Entry) :
    callCount (closed e ending).2 = callCount ending.2 := by
  simp [callCount, closed_stats]

/-- The counter of calls does not decrease in a run. -/
theorem Runs.counted {calls : CallRelation} {turn : Turn}
    (below : ∀ h name s e, calls h name s e → callCount s ≤ callCount e.2)
    (runs : Runs env calls p turn ending) : callCount turn.state ≤ callCount ending.2 := by
  induction runs with
  | step _ ih =>
    rw [performed_callCount] at ih
    exact ih
  | faulted call => exact below _ _ _ _ call
  | called call _ ih =>
    rw [resumed_callCount] at ih
    exact Nat.le_trans (below _ _ _ _ call) ih
  | done => exact Nat.le_refl _

/-- A call of a program is counted, however it goes. -/
theorem Course.counted {calls : CallRelation}
    (below : ∀ h name s e, calls h name s e → callCount s ≤ callCount e.2)
    (course : Course env calls p name s ending) : callCount s < callCount ending.2 := by
  cases course with
  | cut => exact Nat.lt_succ_self _
  | hit => simp
  | ran _ _ runs =>
    have counted := runs.counted below
    simpa [Turn.state] using counted

/-- A call never lowers the number of calls. -/
theorem CallsWithin.counted {depth : Nat} (call : CallsWithin env depth h name s ending) :
    callCount s ≤ callCount ending.2 := by
  induction depth generalizing h name s ending with
  | zero => exact call.elim
  | succ depth ih =>
    rcases Answers.goes call with ⟨fault, -, rfl⟩ | ⟨p, -, course⟩
    · exact Nat.le_refl _
    · exact Nat.le_of_lt (course.counted fun _ _ _ _ inner => ih inner)

/-- A call of a program raises the counter. -/
theorem Calls.counted (program : programOf env h = .ok p) (call : Calls env h name s ending) :
    callCount s < callCount ending.2 := by
  refine (Answers.course program (calls_iff.mp call)).counted ?_
  rintro _ _ _ _ ⟨depth, inner⟩
  exact inner.counted

end

/-! ## Traces -/

/-- Both traces are kept, and what the second one records the first one records in the same order,
among other events. -/
def TracesWithin (trace trace' : Option (Array Event)) : Prop :=
  ∃ events events', trace = some events ∧ trace' = some events' ∧
    events'.toList.Sublist events.toList

/-- The same event is recorded on both sides. -/
theorem TracesWithin.record {trace trace' : Option (Array Event)}
    (within : TracesWithin trace trace') (p : Program) (event : Event) :
    TracesWithin (record p event trace) (record p event trace') := by
  obtain ⟨events, events', rfl, rfl, sublist⟩ := within
  by_cases traced : p.traced = true
  · refine ⟨events.push event, events'.push event, if_pos traced, if_pos traced, ?_⟩
    simpa using sublist
  · exact ⟨events, events', if_neg traced, if_neg traced, sublist⟩

/-- More events are recorded on the left. -/
theorem TracesWithin.append {trace trace' : Option (Array Event)}
    (within : TracesWithin trace trace') (more : List Event) :
    TracesWithin (trace.map fun events => events ++ more.toArray) trace' := by
  obtain ⟨events, events', rfl, rfl, sublist⟩ := within
  refine ⟨events ++ more.toArray, events', rfl, rfl, ?_⟩
  rw [Array.toList_append]
  exact sublist.trans (List.sublist_append_left _ _)

/-! ## Less work on the right -/

variable {c : RuleCache} {env : Environment} {rule : RuleId} {s s' : ParseState}

/-- On the right no more is recorded and counted than on the left. -/
structure Saves (s s' : ParseState) : Prop where
  trace : TracesWithin s.book.trace s'.book.trace
  calls : callCount s' ≤ callCount s
  cuts : cuts s' ≤ cuts s

namespace Saves

/-- A run that begins on both sides saves as much as before. -/
theorem begun (saves : Saves s s') (p : Program) (name : Option String) :
    Saves (begun p name s) (begun p name s') where
  trace := by
    rw [begun_trace, begun_trace]
    exact saves.trace.record p _
  calls := by simpa using saves.calls
  cuts := by
    rw [begun_cuts, begun_cuts]
    exact saves.cuts

/-- A call is refused on both sides. -/
theorem cut (saves : Saves s s') : Saves (countCut (countCall s)) (countCut (countCall s')) where
  trace := saves.trace
  calls := Nat.succ_le_succ saves.calls
  cuts := Nat.succ_le_succ saves.cuts

/-- An outcome is used again on the right, where a rule is called on the left. -/
theorem replayed (saves : Saves s s') (entry : MemoEntry) {p : Program} {h : Handle}
    {name : Option String} {e : Ending} (program : programOf env h = .ok p)
    (call : Calls env h name s e) : Saves e.2 (replayed entry s').2 := by
  have counted := call.counted program
  obtain ⟨depth, call⟩ := call
  obtain ⟨events, recorded⟩ := call.recorded
  constructor
  · rw [recorded.trace, replayed_trace]
    exact saves.trace.append events
  · rw [replayed_callCount]
    exact Nat.le_trans (Nat.succ_le_succ saves.calls) counted
  · rw [replayed_cuts]
    exact Nat.le_trans saves.cuts (uncutWithin_of_cuts call).1

/-- Runs that end alike are left with the same event. -/
theorem closed {e e' : Entry} {ending ending' : Ending} (saves : Saves ending.2 ending'.2)
    (program : e.program = e'.program) (left : leaving e ending = leaving e' ending') :
    Saves (closed e ending).2 (Machine.closed e' ending').2 where
  trace := by
    rw [closed_trace, closed_trace, program, left]
    exact saves.trace.record _ _
  calls := by simpa using saves.calls
  cuts := by
    rw [closed_cuts, closed_cuts]
    exact saves.cuts

end Saves

/-- Calls that remember outcomes by rule, place and active rules do no more than calls that remember
nothing. -/
theorem lasting_saves [RegexEngine] (parse : Parse c env) (precise : env.memoMode = .precise)
    (walkless : c.Walkless) :
    Lasting c env (fun _ => True) Eq fun s s' => Mirrors c env s s' ∧ Saves s s' where
  steady := by
    refine ⟨fun s s' related => (mirrors_steady c env).pos s s' related.1, ?_⟩
    intro cursor cursor' book book' pos reach related
    obtain ⟨mirrors, saves⟩ := related
    exact ⟨(mirrors_steady c env).moved _ _ _ _ pos reach mirrors, saves.trace, saves.calls,
      saves.cuts⟩
  same _ := rfl
  begun := by
    rintro p name _ s s' rfl ⟨mirrors, saves⟩
    exact ⟨(lasting_mirrors parse precise walkless).begun trivial mirrors, saves.begun p name⟩
  cut _ related := ⟨related.1, related.2.cut⟩
  replayed {active active' rule h p s s' e entry} sides named found := by
    obtain ⟨call, issued, covers, mirrors, saves⟩ := sides
    obtain ⟨outcome, after⟩ := (lasting_mirrors parse precise walkless).replayed
      ⟨call, issued, covers, mirrors⟩ named found
    obtain ⟨d, p', published⟩ := parse.cache.entries rule h call.ready
    obtain ⟨name, sparing⟩ := call.sparing
    have program := programOf_of_published (parse_forgetful parse) published
    exact ⟨outcome, after, saves.replayed entry program sparing.calls⟩
  closed {active active' rule h p s s' inner inner'} sides named alike := by
    obtain ⟨call, issued, covers, mirrors, -⟩ := sides
    obtain ⟨outcome, within, saves⟩ := alike
    obtain ⟨ended, after⟩ := (lasting_mirrors parse precise walkless).closed
      ⟨call, issued, covers, mirrors⟩ named ⟨outcome, within⟩
    refine ⟨ended, after, saves.closed rfl ?_⟩
    obtain ⟨result, t⟩ := inner
    obtain ⟨result', t'⟩ := inner'
    obtain rfl : result = result' := outcome
    have start : s.cursor.pos = s'.cursor.pos := congrArg Cursor.pos mirrors.1
    have stop : t.cursor.pos = t'.cursor.pos := congrArg Cursor.pos within.1
    cases result <;> simp [leaving, entryOf, start, stop]

/-! ## Matches -/

/-- Memoization only saves work: for every grammar that can be built, whatever was asked for, as
long as no program is guarded by a walk, from every place of every text, and for every rule. The
match that remembers outcomes by rule, place and active rules comes out as the match that remembers
nothing; what it records, the other match records in the same order, among other events; and it
makes no more calls, and no more that are refused. A text is never so long that a word cannot hold
its size. -/
theorem match_saves [RegexEngine] {d : GrammarDraft} {g : Grammar} (built : d.build = .ok g)
    (m : RecordModel) {c : RuleCache} (history : c.History g m.toObjectModel)
    (walkless : c.Walkless)
    {rule : RuleId} {h : Handle} (ready : c.ready[rule]? = some h) {text : String}
    (short : text.utf8ByteSize < 2 ^ 63) (user : Value) {pos : Nat}
    (le : pos ≤ text.utf8ByteSize) :
    ∃ enough outcome events events' off precise, (∀ fuel, enough ≤ fuel →
        matchRule (environmentOf c text user .off) fuel h
            ⟨⟨pos, 0⟩, (ParseState.initial true).book⟩ = some (outcome, off) ∧
          matchRule (environmentOf c text user .precise) fuel h
            ⟨⟨pos, 0⟩, (ParseState.initial true).book⟩ = some (outcome, precise)) ∧
      off.book.trace = some events ∧ precise.book.trace = some events' ∧
      events'.toList.Sublist events.toList ∧
      precise.book.stats.calls ≤ off.book.stats.calls ∧
      precise.book.stats.recursionCuts ≤ off.book.stats.recursionCuts := by
  have parse := parse_of_history built history short user .precise
  let s : ParseState := ⟨⟨pos, 0⟩, (ParseState.initial true).book⟩
  have reached' : Reached c (environmentOf c text user .precise) s := .start true le
  have reached : Reached c (environmentOf c text user .off) s := .start true le
  have mirrors : Mirrors c (environmentOf c text user .precise) s s := by
    refine ⟨rfl, fun key entry there => ?_⟩
    simp [s, ParseState.initial] at there
  have saves : Saves s s := ⟨⟨#[], #[], rfl, rfl, .refl _⟩, Nat.le_refl _, Nat.le_refl _⟩
  obtain ⟨enough, outcome, off, precise, found, -, fewer⟩ :=
    (lasting_saves parse rfl walkless).match parse
      (reached.rests (parse_forgetful parse) (anything_closed _ _))
      (reached'.rests parse (anything_closed _ _)) ⟨mirrors, saves⟩ ready
  obtain ⟨⟨events, events', trace, trace', sublist⟩, calls, cuts⟩ := fewer
  exact ⟨enough, outcome, events, events', off, precise, found, trace, trace', sublist, calls, cuts⟩

section

attribute [local instance] letterEngine

/-- Three letters a, matched without memory and with it, where four calls are answered from the
table. -/
theorem match_saves_nested :
    (∃ s, matchRule (environmentOf (nestedCache.get ⟨1⟩).2 "aaa" .null .precise) 100 ⟨0⟩
      (.initial true) = some (.ok (some (.str "a")), s) ∧ s.book.stats.memoHits = 4) ∧
    ∃ enough outcome events events' off precise, (∀ fuel, enough ≤ fuel →
        matchRule (environmentOf (nestedCache.get ⟨1⟩).2 "aaa" .null .off) fuel ⟨0⟩
            (.initial true) = some (outcome, off) ∧
          matchRule (environmentOf (nestedCache.get ⟨1⟩).2 "aaa" .null .precise) fuel ⟨0⟩
            (.initial true) = some (outcome, precise)) ∧
      off.book.trace = some events ∧ precise.book.trace = some events' ∧
      events'.toList.Sublist events.toList ∧
      precise.book.stats.calls ≤ off.book.stats.calls ∧
      precise.book.stats.recursionCuts ≤ off.book.stats.recursionCuts := by
  obtain ⟨s, found, stats⟩ := nested_recalls true
  exact ⟨⟨s, found, congrArg Stats.memoHits stats⟩,
    match_saves nested_built .empty (nested_history ⟨1⟩) nested_walkless nested_ready (by decide)
      .null (Nat.zero_le _)⟩

end

end Packrat.Machine
