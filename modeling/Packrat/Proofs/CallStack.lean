import Packrat.Proofs.Context
import Packrat.Proofs.Machine.Step

/-!
# The call stack

The machine followed step by step, with the runs that are active at each of its calls. The book
keeps one mask for one place, and entries of walks; together they say of every call whether its rule
is entered at that very place already, as places do not decrease from a call to the calls below it.

* `Visits`: the configurations that the machine comes by.
* `MakesCall`: the calls of a match, with the runs that are active.
* `Refused`: the guard refuses a call.
* `OnTrack`: what the runs on the stack are in the middle of.

Main statement: `call_refused_iff`.
-/

namespace Packrat.Machine

/-! ## Calls of a match -/

/-- The configurations that the machine comes by. -/
inductive Visits (env : Environment) (first : Config) : Config → Prop where
  /-- The first one. -/
  | first : Visits env first first
  /-- The one after a step. -/
  | next {c c' : Config} (before : Visits env first c) (next : step env c = .running c') :
    Visits env first c'

/-- The runs that are active, innermost first. -/
def Config.active (c : Config) : List Entry :=
  c.frame.entry :: c.callers.map fun w => w.frame.entry

/-- The calls that a match makes: of which matcher, for which slot, in which parse state, and while
which runs are active. -/
inductive MakesCall (env : Environment) (h : Handle) (state : ParseState) :
    Handle → Option String → ParseState → List Entry → Prop where
  /-- The call of the rule that is matched. -/
  | outermost : MakesCall env h state h none state []
  /-- A call by a program that runs. -/
  | inner {p : Program} {frame : Frame} {state' : ParseState} {c : Config} {callee : Handle}
      {name : Option String} {dst : Option Slot} {onFail : Label} {pc : Nat} {regs : Registers}
      {state'' : ParseState} (program : programOf env h = .ok p)
      (enter : enterRule env p none state = (.entered frame, state'))
      (visits : Visits env ⟨state', frame, []⟩ c)
      (calling : performed env c.frame.entry.program c.frame.pc c.frame.regs c.state =
        .calling callee name dst onFail pc regs state'') :
      MakesCall env h state callee name state'' c.active

/-- The guard refuses a call: it fails at once, and is counted as refused. -/
def Refused (env : Environment) (p : Program) (name : Option String) (state : ParseState) : Prop :=
  enterRule env p name state = (.answered none, countCut (countCall state))

/-- A call is refused if the book says that its rule is active. -/
theorem refused_iff {env : Environment} {p : Program} {name : Option String} {state : ParseState} :
    Refused env p name state ↔
      isReentry p.recursion p.rule state.cursor.pos state.book = true := by
  refine ⟨fun refused => eq_true_of_ne_false fun free => ?_, enterRule_cut⟩
  rw [Refused] at refused
  cases found : remembered (memoKey env.memoMode p state.cursor.pos state.book.guard)
    state.book.memo with
  | none =>
    rw [enterRule_run free found] at refused
    cases refused
  | some entry =>
    -- A failure that is remembered is counted as such.
    cases entry with
    | success stop product =>
      rw [enterRule_success free found] at refused
      cases refused
    | failure =>
      rw [enterRule_failure free found] at refused
      have counted := congrArg (fun result => result.2.book.stats.recursionCuts) refused
      exact absurd counted (Nat.ne_of_lt (Nat.lt_succ_self _))

/-! ## Active rules of a stack -/

/-- The guarded rules that are active while some runs are, innermost first. -/
def activeOf (guards : Guards) : List Entry → List (RuleId × Nat)
  | [] => []
  | e :: outer => entered guards e.program.rule e.start (activeOf guards outer)

/-- The active rules of a stack are the guarded ones that some run of it has entered. -/
theorem mem_activeOf {guards : Guards} {runs : List Entry} {rule : RuleId} {pos : Nat} :
    (rule, pos) ∈ activeOf guards runs ↔
      guards.contains rule = true ∧ ∃ e ∈ runs, e.program.rule = rule ∧ e.start = pos := by
  induction runs with
  | nil => simp [activeOf]
  | cons e outer ih =>
    have member : (rule, pos) ∈ activeOf guards (e :: outer) ↔
        guards.contains e.program.rule = true ∧ e.program.rule = rule ∧ e.start = pos ∨
          (rule, pos) ∈ activeOf guards outer := by
      rw [activeOf, entered]
      by_cases given : guards.contains e.program.rule = true
      · rw [if_pos given, List.mem_cons, Prod.mk.injEq]
        simp only [given, true_and, @eq_comm _ rule, @eq_comm _ pos]
      · rw [if_neg given]
        simp only [given, Bool.false_eq_true, false_and, false_or]
    rw [member, ih]
    simp only [List.mem_cons, exists_eq_or_imp]
    constructor
    · rintro (⟨given, rfl, rfl⟩ | ⟨given, inside⟩)
      · exact ⟨given, .inl ⟨rfl, rfl⟩⟩
      · exact ⟨given, .inr inside⟩
    · rintro ⟨given, ⟨rfl, rfl⟩ | inside⟩
      · exact .inl ⟨given, rfl, rfl⟩
      · exact .inr ⟨given, inside⟩

variable {c : RuleCache} {env : Environment}

/-! ## Runs on the stack -/

/-- The calls of a run that was entered at a place, with the guarded rules that are active below
it. -/
def CallsInside (c : RuleCache) (env : Environment) (start : Nat) (active : List (RuleId × Nat)) :
    CallRelation :=
  fun h name state ending =>
    Calls env h name state ending ∧ start ≤ state.cursor.pos ∧ Issued c env active h state

/-- A run of a published program is at a turn from which it comes to an end. It began with a call of
a matcher in a parse state, while some runs were active. -/
structure Began [RegexEngine] (c : RuleCache) (env : Environment) (outer : List Entry) (h : Handle)
    (name : Option String) (state : ParseState) (e : Entry) (turn : Turn) (ending : Ending) :
    Prop where
  issued : Issued c env (activeOf c.guards outer) h state
  published : ∃ d, c.Published e.program.rule h d e.program
  entry : e = entryOf env e.program state
  call : Calls env h name state (closed e ending)
  runs : Runs env (CallsInside c env state.cursor.pos (activeOf c.guards (e :: outer))) e.program
    turn ending

/-- The run of an entry is at a turn, and every run that waits is at the call which it waits for. -/
inductive OnTrack [RegexEngine] (c : RuleCache) (env : Environment) :
    List Waiting → Entry → Turn → Prop where
  /-- No run waits. -/
  | outermost {h : Handle} {name : Option String} {state : ParseState} {e : Entry} {turn : Turn}
      {ending : Ending} (began : Began c env [] h name state e turn ending) :
    OnTrack c env [] e turn
  /-- A run waits for the run of the entry. -/
  | inner {w : Waiting} {callers : List Waiting} {h : Handle} {name : Option String}
      {state : ParseState} {e : Entry} {turn : Turn} {ending : Ending}
      (outer : OnTrack c env callers w.frame.entry
        (.calling h name w.dst w.onFail w.frame.pc w.frame.regs state))
      (began : Began c env (w.frame.entry :: callers.map fun w => w.frame.entry) h name state e turn
        ending) : OnTrack c env (w :: callers) e turn

/-- The runs that wait. -/
abbrev entriesOf (callers : List Waiting) : List Entry := callers.map fun w => w.frame.entry

/-- The machine is on track in a configuration. -/
abbrev Config.OnTrack [RegexEngine] (c : RuleCache) (env : Environment) (config : Config) : Prop :=
  Machine.OnTrack c env config.callers config.frame.entry
    (.at config.frame.pc config.frame.regs config.state)

/-- A run starts where the call of its rule was. -/
theorem Began.start [RegexEngine] {outer : List Entry} {h : Handle} {name : Option String}
    {state : ParseState} {e : Entry} {turn : Turn} {ending : Ending}
    (began : Began c env outer h name state e turn ending) : e.start = state.cursor.pos := by
  rw [began.entry]
  rfl

/-- A program that is entered is at its first instruction. -/
theorem Began.enter [RegexEngine] (parse : Parse c env) {outer : List Entry} {h : Handle}
    {name : Option String} {state state' : ParseState} {ending : Ending} {p : Program}
    {frame : Frame}
    (issued : Issued c env (activeOf c.guards outer) h state)
    (call : Calls env h name state ending) (program : programOf env h = .ok p)
    (enter : enterRule env p name state = (.entered frame, state')) :
    ∃ ending,
      Began c env outer h name state frame.entry (.at frame.pc frame.regs state') ending := by
  obtain ⟨rule, ready⟩ := issued.ready
  obtain ⟨d, p', published⟩ := parse.cache.entries rule h ready
  cases program.symm.trans (programOf_of_published parse published)
  cases Answers.course program (calls_iff.mp call) with
  | cut active => cases (enterRule_cut active).symm.trans enter
  | @hit entry free found =>
    cases entry with
    | success stop product => cases (enterRule_success free found).symm.trans enter
    | failure => cases (enterRule_failure free found).symm.trans enter
  | ran free unknown runs =>
    cases (enterRule_run free unknown).symm.trans enter
    have named := published.compiled.rule
    have inside := issued.runs parse published (fun _ _ _ _ call => call) runs
    rw [← named] at published inside
    exact ⟨_, issued, ⟨d, published⟩, rfl, call, inside⟩

/-- Whatever runs wait, the run of the entry began by a call. -/
theorem OnTrack.began [RegexEngine] {callers : List Waiting} {e : Entry} {turn : Turn}
    (track : OnTrack c env callers e turn) :
    ∃ h name state ending, Began c env (entriesOf callers) h name state e turn ending := by
  cases track with
  | outermost began => exact ⟨_, _, _, _, began⟩
  | inner _ began => exact ⟨_, _, _, _, began⟩

/-- The run of the entry may be at another turn from which it comes to the same ends. -/
theorem OnTrack.turn [RegexEngine] {callers : List Waiting} {e : Entry} {turn turn' : Turn}
    (track : OnTrack c env callers e turn)
    (runs : ∀ start active ending, Runs env (CallsInside c env start active) e.program turn ending →
      Runs env (CallsInside c env start active) e.program turn' ending) :
    OnTrack c env callers e turn' := by
  cases track with
  | outermost began =>
    exact .outermost ⟨began.issued, began.published, began.entry, began.call, runs _ _ _ began.runs⟩
  | inner outer began =>
    exact .inner outer
      ⟨began.issued, began.published, began.entry, began.call, runs _ _ _ began.runs⟩

/-- The call that a run is at. -/
theorem OnTrack.calling [RegexEngine] {callers : List Waiting} {e : Entry} {h : Handle}
    {name : Option String} {dst : Option Slot} {onFail : Label} {pc : Nat} {regs : Registers}
    {state : ParseState}
    (track : OnTrack c env callers e (.calling h name dst onFail pc regs state)) :
    ∃ ending, CallsInside c env e.start (activeOf c.guards (e :: entriesOf callers)) h name state
      ending := by
  obtain ⟨_, _, _, _, began⟩ := track.began
  rw [began.start]
  cases began.runs with
  | faulted call => exact ⟨_, call⟩
  | called call => exact ⟨_, call⟩

/-- No run that waits began further on than the run of the entry. -/
theorem OnTrack.start_le [RegexEngine] {callers : List Waiting} {e : Entry} {turn : Turn}
    (track : OnTrack c env callers e turn) : ∀ e' ∈ entriesOf callers, e'.start ≤ e.start := by
  induction track with
  | outermost _ => simp
  | inner outer began ih =>
    obtain ⟨_, _, le, _⟩ := outer.calling
    rw [← began.start] at le
    intro e' member
    rcases List.mem_cons.mp member with rfl | member
    · exact le
    · exact Nat.le_trans (ih e' member) le

/-! ## Steps -/

/-- A run that goes on after a call goes on at an instruction. -/
theorem resumed_running {e : Entry} {callers : List Waiting} {pc : Nat} {regs : Registers}
    {dst : Option Slot} {onFail : Label} {outcome : Option Product} {state : ParseState}
    {c' : Config}
    (next : stepOf env e callers (resumed e.program pc regs dst onFail outcome state) =
      .running c') :
    c'.callers = callers ∧ c'.frame.entry = e ∧
      resumed e.program pc regs dst onFail outcome state =
        .at c'.frame.pc c'.frame.regs c'.state := by
  rcases resumed_cases e.program pc regs dst onFail outcome state with
    ⟨pc', regs', state', turn⟩ | ⟨fault, state', turn⟩
  · rw [turn] at next ⊢
    cases next
    exact ⟨rfl, rfl, rfl⟩
  · rw [turn] at next
    cases next

/-- A run that is at a call goes on once the call has ended. -/
theorem OnTrack.resume [RegexEngine] {callers : List Waiting} {e : Entry} {h : Handle}
    {name : Option String} {dst : Option Slot} {onFail : Label} {pc : Nat} {regs : Registers}
    {state state' : ParseState}
    {outcome : Option Product}
    (track : OnTrack c env callers e (.calling h name dst onFail pc regs state))
    (call : Calls env h name state (.ok outcome, state')) :
    OnTrack c env callers e (resumed e.program pc regs dst onFail outcome state') := by
  refine track.turn fun start active ending runs => ?_
  cases runs with
  | faulted call' => cases call.deterministic call'.1
  | called call' rest =>
    cases call.deterministic call'.1
    exact rest

/-- The machine keeps on track. -/
theorem OnTrack.advance [RegexEngine] (parse : Parse c env) {callers : List Waiting} {e : Entry}
    {turn : Turn} (track : OnTrack c env callers e turn) {c' : Config}
    (next : stepOf env e callers turn = .running c') :
    c'.OnTrack c env := by
  -- A run that goes on behind a call is not at a call, so the machine only moves to its place.
  have goesOn {callers : List Waiting} {e : Entry} {pc : Nat} {regs : Registers}
      {dst : Option Slot} {onFail : Label} {outcome : Option Product} {state : ParseState}
      (track : OnTrack c env callers e (resumed e.program pc regs dst onFail outcome state))
      (next : stepOf env e callers (resumed e.program pc regs dst onFail outcome state) =
        .running c') :
      c'.OnTrack c env := by
    obtain ⟨rfl, rfl, same⟩ := resumed_running next
    rw [Config.OnTrack, ← same]
    exact track
  cases turn with
  | «at» pc regs state =>
    cases next
    exact track
  | calling h name dst onFail pc regs state =>
    obtain ⟨ending, call, le, issued⟩ := track.calling
    obtain ⟨rule, ready⟩ := issued.ready
    obtain ⟨d, p, published⟩ := parse.cache.entries rule h ready
    have program := programOf_of_published parse published
    unfold stepOf Machine.call at next
    dsimp only at next
    rw [program] at next
    dsimp only at next
    cases enter : enterRule env p name state with
    | mk admission state' =>
      rw [enter] at next
      cases admission with
      | answered outcome =>
        have answered : Calls env h name state (.ok outcome, state') :=
          calls_iff.mpr (.answered program enter)
        exact goesOn (track.resume answered) (resume_eq .. ▸ next)
      | entered frame =>
        cases next
        obtain ⟨_, began⟩ := Began.enter parse issued call program enter
        exact .inner track began
  | ended ending =>
    obtain ⟨fault | outcome, state⟩ := ending
    · cases next
    · unfold stepOf complete at next
      cases track with
      | outermost began => cases next
      | inner outer began =>
        have call := began.call
        cases began.runs
        exact goesOn (outer.resume call) (resume_eq .. ▸ next)

/-- The instruction that a run is at is performed. -/
theorem OnTrack.performed [RegexEngine] {callers : List Waiting} {e : Entry} {pc : Nat}
    {regs : Registers} {state : ParseState} (track : OnTrack c env callers e (.at pc regs state)) :
    OnTrack c env callers e (Machine.performed env e.program pc regs state) := by
  refine track.turn fun start active ending runs => ?_
  cases runs with
  | step rest => exact rest

/-- A step keeps the machine on track. -/
theorem OnTrack.step [RegexEngine] (parse : Parse c env) {config config' : Config}
    (track : config.OnTrack c env) (next : Machine.step env config = .running config') :
    config'.OnTrack c env := by
  refine track.performed.advance parse ?_
  rw [← step_eq]
  exact next

/-! ## Every call of a match -/

/-- The program of a published rule is guarded if its rule is. -/
theorem guarded_iff [RegexEngine] (parse : Parse c env) {rule : RuleId} {h : Handle} {d : RuleDef}
    {p : Program} (published : c.Published rule h d p) :
    c.guards.contains p.rule = true ↔ p.recursion ≠ .none := by
  have guarded : p.recursion = guardOf c.guards p.rule := by
    rw [published.compiled.rule]
    exact published.recursion
  rw [guarded]
  constructor
  · intro given none
    have there := getElem?_of_contains given
    rw [none] at there
    exact parse.cache.guards.real _ there
  · exact fun real => eq_true_of_ne_false fun free => real (guardOf_of_not_contains free)

/-- The machine is on track wherever it comes by. -/
theorem Visits.onTrack [RegexEngine] (parse : Parse c env) {first config : Config}
    (visits : Visits env first config) (track : first.OnTrack c env) : config.OnTrack c env := by
  induction visits with
  | first => exact track
  | next _ next ih => exact ih.step parse next

/-- A match calls published rules, at places that no active run is ahead of, and the book says
which guarded rules are active. -/
theorem MakesCall.issued [RegexEngine] (parse : Parse c env) {rule : RuleId} {h : Handle}
    {state : ParseState} (rests : Rests c env anything state) (ready : c.ready[rule]? = some h)
    {callee : Handle}
    {name : Option String} {state' : ParseState} {active : List Entry}
    (makes : MakesCall env h state callee name state' active) :
    Issued c env (activeOf c.guards active) callee state' ∧
      ∀ e ∈ active, e.start ≤ state'.cursor.pos := by
  have outermost : Issued c env (activeOf c.guards []) h state := rests.issued ready
  cases makes with
  | outermost => exact ⟨outermost, by simp⟩
  | inner program enter visits calling =>
    obtain ⟨_, _, call, _⟩ := match_comes parse (anything_closed c env) rests ready
    obtain ⟨_, began⟩ := Began.enter parse outermost call program enter
    have track := (visits.onTrack parse (.outermost began)).performed
    rw [calling] at track
    obtain ⟨_, _, le, issued⟩ := track.calling
    refine ⟨issued, fun e member => ?_⟩
    rcases List.mem_cons.mp member with rfl | member
    · exact le
    · exact Nat.le_trans (track.start_le e member) le

/-- The guard is exact: whatever grammar can be built, whatever was asked for, whatever was matched
before, and however outcomes are remembered. At every call of a match, no active run began ahead of
the place of the call, and the call is refused just if its rule is guarded and one of the active
runs is a run of that rule which began at this place. -/
theorem call_refused_iff [RegexEngine] {d : GrammarDraft} {g : Grammar} (built : d.build = .ok g)
    (m : RecordModel) {c : RuleCache} (history : c.History g m.toObjectModel) {rule : RuleId}
    {h : Handle} (ready : c.ready[rule]? = some h) {text : String}
    (short : text.utf8ByteSize < 2 ^ 63) (user : Value) (mode : MemoMode) {state : ParseState}
    (reached : Reached c (environmentOf c text user mode) state) {callee : Handle}
    {name : Option String} {state' : ParseState} {active : List Entry}
    (makes : MakesCall (environmentOf c text user mode) h state callee name state' active) :
    (∀ e ∈ active, e.start ≤ state'.cursor.pos) ∧
      ∃ p, programOf (environmentOf c text user mode) callee = .ok p ∧
        (Refused (environmentOf c text user mode) p name state' ↔ p.recursion ≠ .none ∧
          ∃ e ∈ active, e.program.rule = p.rule ∧ e.start = state'.cursor.pos) := by
  have parse := parse_of_history built history short user mode
  have rests := reached.rests parse (anything_closed _ _)
  obtain ⟨issued, le⟩ := makes.issued parse rests ready
  obtain ⟨calledRule, calledReady⟩ := issued.ready
  obtain ⟨d, p, published⟩ := parse.cache.entries calledRule callee calledReady
  refine ⟨le, p, programOf_of_published parse published, ?_⟩
  rw [refused_iff, reentry_iff published issued.tracks, mem_activeOf, ← published.compiled.rule,
    guarded_iff parse published]

section

attribute [local instance] letterEngine

/-- The one rule calls the other one, whose call of the one rule is refused. -/
theorem call_refused_contrary : ∃ state' active,
    MakesCall (environmentOf (contraryCache.get ⟨0⟩).2 "" .null .precise) ⟨0⟩ (.initial false) ⟨0⟩
        none state' active ∧
      (∀ e ∈ active, e.start ≤ state'.cursor.pos) ∧
      ∃ p, programOf (environmentOf (contraryCache.get ⟨0⟩).2 "" .null .precise) ⟨0⟩ = .ok p ∧
        Refused (environmentOf (contraryCache.get ⟨0⟩).2 "" .null .precise) p none state' := by
  have makes : ∃ state' active e,
      MakesCall (environmentOf (contraryCache.get ⟨0⟩).2 "" .null .precise) ⟨0⟩ (.initial false) ⟨0⟩
        none state' active ∧ e ∈ active ∧
      e.program = notProgram "one" ⟨0⟩ ⟨⟨1⟩, some ⟨1⟩⟩ (.bit 0) ∧ e.start = state'.cursor.pos := by
    rw [contrary_environment]
    refine ⟨_, _, _, .inner rfl rfl (.next (.next (.next .first rfl) rfl) rfl) rfl,
      List.mem_cons_of_mem _ List.mem_cons_self, rfl, rfl⟩
  have program : programOf (environmentOf (contraryCache.get ⟨0⟩).2 "" .null .precise) ⟨0⟩ =
      .ok (notProgram "one" ⟨0⟩ ⟨⟨1⟩, some ⟨1⟩⟩ (.bit 0)) := by
    rw [contrary_environment]
    rfl
  obtain ⟨state', active, e, makes, member, runs, here⟩ := makes
  obtain ⟨le, p, program', refused⟩ := call_refused_iff contrary_built .empty
    (contrary_history ⟨0⟩) contrary_ready (by decide) .null .precise
    (.start false (Nat.zero_le _)) makes
  cases program.symm.trans program'
  exact ⟨state', active, makes, le, _, program, refused.mpr ⟨nofun, e, member, by rw [runs], here⟩⟩

end

end Packrat.Machine
