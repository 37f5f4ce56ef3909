import Packrat.Proofs.Ignored
import Packrat.Proofs.Matching
import Packrat.Proofs.Trace

/-!
# Traces are observations only

A match does the same whether a trace is kept or not, and whatever stays out of it: what is kept of
the events is a matter of looking at them. A way to look at traces is one that goes with recording:
with the events of some rules left out, for programs that stay out of the trace, and with nothing
at all.

* `without`: a trace without the events of some rules.
* `Views`: a way to look at traces that goes with recording.
* `ParseState.seen`: a parse state with a look at its trace.

Main statements: `step_seen`, `run_seen` and `match_observed`.
-/

namespace Packrat

/-- The rule that an event is about. -/
def Event.rule : Event → RuleId
  | .push rule _ => rule
  | .pop rule _ _ _ _ => rule

namespace Machine

/-! ## Looking at traces -/

/-- A trace without the events of some rules. -/
def without (F : List RuleId) (trace : Option (Array Event)) : Option (Array Event) :=
  trace.map fun events => events.filter fun event => event.rule ∉ F

/-- A way to look at traces for which it makes no difference whether the rules that stay out of the
trace are left out on recording or on looking. -/
def Views (F : List RuleId) (view : Option (Array Event) → Option (Array Event)) : Prop :=
  ∀ (p : Program) (event : Event) (trace : Option (Array Event)), event.rule = p.rule →
    record (p.ignoring F) event (view trace) = view (record p event trace)

/-- Leaving the events of some rules out is a view. -/
theorem views_without (F : List RuleId) : Views F (without F) := by
  intro p event trace about
  cases trace with
  | none => simp [record, without]
  | some events =>
    by_cases traced : p.traced = true
    · by_cases ignored : p.rule ∈ F
      · have stays : (p.ignoring F).traced = false := by simp [Program.ignoring, ignored]
        simp only [record, traced, stays, without, Option.map_some, if_true]
        rw [Array.filter_push_of_neg (by simp [about, ignored]) (Array.size_push event)]
        rfl
      · have stays : (p.ignoring F).traced = true := by simp [Program.ignoring, traced, ignored]
        simp only [record, traced, stays, without, Option.map_some, if_true]
        rw [Array.filter_push_of_pos (by simp [about, ignored]) (Array.size_push event)]
    · simp [record, without, Program.ignoring, traced]

/-- Seeing no trace is a view. -/
theorem views_none (F : List RuleId) : Views F fun _ => none := by
  intro p event trace _
  simp [record]

/-- The parse state with a look at its trace. -/
def seen (view : Option (Array Event) → Option (Array Event)) : ParseState → ParseState
  | ⟨cursor, ⟨guard, walk, memo, stats, trace⟩⟩ =>
    ⟨cursor, ⟨guard, walk, memo, stats, view trace⟩⟩

/-! ## Machines where rules stay out of the trace -/

/-- The environment, with some rules staying out of the trace, too. -/
def environmentIgnoring (F : List RuleId) (env : Environment) : Environment :=
  { env with arena := env.arena.ignoring F }

/-- The start of a run whose program may stay out of the trace. -/
def Entry.ignoring (F : List RuleId) (e : Entry) : Entry :=
  { e with program := e.program.ignoring F }

/-- A run whose program may stay out of the trace. -/
def Frame.ignoring (F : List RuleId) (frame : Frame) : Frame :=
  { frame with entry := frame.entry.ignoring F }

/-- A waiting run whose program may stay out of the trace. -/
def Waiting.ignoring (F : List RuleId) (w : Waiting) : Waiting :=
  { w with frame := w.frame.ignoring F }

section

variable (F : List RuleId) (view : Option (Array Event) → Option (Array Event))

/-- A turn with a look at the trace. -/
def Turn.seen : Turn → Turn
  | .at pc regs state => .at pc regs (Machine.seen view state)
  | .calling callee name dst onFail pc regs state =>
    .calling callee name dst onFail pc regs (Machine.seen view state)
  | .ended (outcome, state) => .ended (outcome, Machine.seen view state)

/-- A configuration whose programs may stay out of the trace, with a look at the trace. -/
def Config.seen : Config → Config
  | ⟨state, frame, callers⟩ =>
    ⟨Machine.seen view state, frame.ignoring F, callers.map (Waiting.ignoring F)⟩

/-- A step between such configurations. -/
def Step.seen : Step → Step
  | .running c => .running (c.seen F view)
  | .finished outcome state => .finished outcome (Machine.seen view state)

/-- What calls come to where programs may stay out of the trace. -/
def Admission.ignoring : Admission → Admission
  | .answered outcome => .answered outcome
  | .entered frame => .entered (frame.ignoring F)

end

/-! ## Stages of a call -/

section

variable {F : List RuleId} {view : Option (Array Event) → Option (Array Event)}

/-- A handle has the same program, only flagged. -/
theorem programOf_ignoring (F : List RuleId) (env : Environment) (h : Handle) :
    programOf (environmentIgnoring F env) h = (programOf env h).map (Program.ignoring F) := by
  unfold programOf environmentIgnoring
  simp only [Arena.get?_ignoring]
  cases env.arena.get? h with
  | none => rfl
  | some m => exact Matcher.program_ignoring F m

/-- No instruction looks at the trace. -/
theorem execute_ignoring (F : List RuleId) (env : Environment) (p : Program) (i : Instruction) :
    execute (environmentIgnoring F env) (p.ignoring F) i = execute env p i := by
  cases i with
  | invoke native args dst onFail => cases native <;> rfl
  | ret success => cases success <;> rfl
  | _ => rfl

variable (view) in
/-- Counting a call is not seen in the trace. -/
theorem countCall_seen (s : ParseState) : countCall (seen view s) = seen view (countCall s) := rfl

variable (view) in
/-- Remembering an outcome is not seen in the trace. -/
theorem rememberOutcome_seen (key : Option MemoKey) (outcome : Option Product) (s : ParseState) :
    rememberOutcome key outcome (seen view s) = seen view (rememberOutcome key outcome s) := rfl

/-- The event of a flagged program is the one that is left out. -/
theorem recordEvent_seen (views : Views F view) {p : Program} {event : Event}
    (about : event.rule = p.rule) (s : ParseState) :
    recordEvent (p.ignoring F) event (seen view s) = seen view (recordEvent p event s) := by
  simp only [recordEvent, seen, views p event _ about]

variable (view) in
/-- Releasing a guard is not seen in the trace. -/
theorem releaseGuard_seen (e : Entry) (s : ParseState) :
    releaseGuard (e.ignoring F) (seen view s) = seen view (releaseGuard e s) := by
  unfold releaseGuard guardLeave
  simp only [Entry.ignoring, Program.ignoring, seen]
  cases e.program.recursion <;> rfl

/-- A run begins the same for a flagged program, in view of the flags. -/
theorem begun_seen (views : Views F view) (p : Program) (name : Option String) (s : ParseState) :
    begun (p.ignoring F) name (seen view s) = seen view (begun p name s) := by
  unfold begun
  rw [countCall_seen, show (Event.push (p.ignoring F).rule name) = .push p.rule name from rfl,
    recordEvent_seen views rfl]
  generalize recordEvent p (.push p.rule name) (countCall s) = s'
  unfold guardEnter
  simp only [Program.ignoring, seen]
  cases p.recursion <;> rfl

/-- A rule is left the same way. -/
theorem leaveRule_seen (views : Views F view) (e : Entry) (outcome : Option Product)
    (s : ParseState) :
    leaveRule (e.ignoring F) outcome (seen view s) = seen view (leaveRule e outcome s) := by
  have recorded (stop : Nat) (s : ParseState) :
      recordEvent (e.program.ignoring F) (popEvent e.program outcome e.start stop) (seen view s) =
        seen view (recordEvent e.program (popEvent e.program outcome e.start stop) s) :=
    recordEvent_seen views rfl s
  unfold leaveRule
  dsimp only
  rw [releaseGuard_seen]
  generalize releaseGuard e s = s'
  cases outcome with
  | none =>
    simp only [Option.isNone_none, if_true]
    rw [← rememberOutcome_seen, ← recorded]
    rfl
  | some product =>
    simp only [Option.isNone_some, Bool.false_eq_true, if_false]
    rw [← rememberOutcome_seen, ← recorded]
    rfl

/-- A run is given up the same way. -/
theorem abandon_seen (views : Views F view) (e : Entry) (s : ParseState) :
    abandon (e.ignoring F) (seen view s) = seen view (abandon e s) := by
  unfold abandon
  rw [releaseGuard_seen, ← recordEvent_seen views rfl]
  rfl

/-- All open runs are given up the same way. -/
theorem abandonAll_seen (views : Views F view) (e : Entry) (callers : List Waiting)
    (s : ParseState) :
    abandonAll (e.ignoring F) (callers.map (Waiting.ignoring F)) (seen view s) =
      seen view (abandonAll e callers s) := by
  unfold abandonAll
  rw [abandon_seen views]
  generalize abandon e s = s'
  induction callers generalizing s' with
  | nil => rfl
  | cons w callers ih =>
    simp only [List.map_cons, List.foldl_cons]
    rw [show (w.ignoring F).frame.entry = w.frame.entry.ignoring F from rfl, abandon_seen views]
    exact ih (abandon w.frame.entry s')

/-- A rule is admitted the same way. -/
theorem enterRule_seen (views : Views F view) (env : Environment) (p : Program)
    (name : Option String) (s : ParseState) :
    enterRule (environmentIgnoring F env) (p.ignoring F) name (seen view s) =
      ((enterRule env p name s).1.ignoring F, seen view (enterRule env p name s).2) := by
  cases free : isReentry p.recursion p.rule s.cursor.pos s.book with
  | true =>
    rw [enterRule_cut free,
      @enterRule_cut (environmentIgnoring F env) (p.ignoring F) name (seen view s) free]
    rfl
  | false =>
    cases found : remembered (memoKey env.memoMode p s.cursor.pos s.book.guard) s.book.memo with
    | none =>
      rw [enterRule_run free found, @enterRule_run (environmentIgnoring F env)
          (p.ignoring F) name (seen view s) free found, begun_seen views]
      rfl
    | some entry =>
      cases entry with
      | success stop product =>
        rw [enterRule_success free found, @enterRule_success (environmentIgnoring F env)
          (p.ignoring F) name (seen view s) free _ _ found]
        rfl
      | failure =>
        rw [enterRule_failure free found, @enterRule_failure (environmentIgnoring F env)
          (p.ignoring F) name (seen view s) free found]
        rfl

/-! ## Steps -/

/-- An instruction is performed the same way. -/
theorem performed_seen (env : Environment) (p : Program) (pc : Nat) (regs : Registers)
    (s : ParseState) :
    performed (environmentIgnoring F env) (p.ignoring F) pc regs (seen view s) =
      (performed env p pc regs s).seen view := by
  obtain ⟨cursor, book⟩ := s
  have same : (p.ignoring F).instruction pc = p.instruction pc := rfl
  simp only [performed, seen, same, execute_ignoring]
  cases p.instruction pc with
  | error fault => rfl
  | ok i =>
    dsimp only
    cases execute env p i ⟨regs, cursor⟩ with
    | error fault after => rfl
    | ok control after => cases control <;> rfl

/-- A run goes on behind a call the same way. -/
theorem resumed_seen (p : Program) (pc : Nat) (regs : Registers) (dst : Option Slot)
    (onFail : Label) (outcome : Option Product) (s : ParseState) :
    resumed (p.ignoring F) pc regs dst onFail outcome (seen view s) =
      (resumed p pc regs dst onFail outcome s).seen view := by
  obtain ⟨cursor, book⟩ := s
  unfold resumed
  cases outcome with
  | none =>
    have same : (p.ignoring F).target onFail = p.target onFail := rfl
    simp only [seen, same]
    cases p.target onFail <;> rfl
  | some product =>
    have same : storeProduct (p.ignoring F) dst product = storeProduct p dst product := by
      cases dst with
      | none => rfl
      | some slot => cases slot <;> cases product <;> rfl
    simp only [seen, same]
    cases storeProduct p dst product ⟨regs, cursor⟩ <;> rfl

/-- A fault ends all open runs the same way. -/
theorem faulted_seen (views : Views F view) (fault : EngineFault) (e : Entry)
    (callers : List Waiting) (s : ParseState) :
    faulted fault (e.ignoring F) (callers.map (Waiting.ignoring F)) (seen view s) =
      (faulted fault e callers s).seen F view := by
  unfold faulted
  rw [abandonAll_seen views]
  rfl

/-- The caller takes over an outcome the same way. -/
theorem resume_seen (views : Views F view) (env : Environment) (w : Waiting)
    (callers : List Waiting) (outcome : Option Product) (s : ParseState) :
    resume (w.ignoring F) (callers.map (Waiting.ignoring F)) outcome (seen view s) =
      (resume w callers outcome s).seen F view := by
  obtain ⟨⟨e, pc, regs⟩, dst, onFail⟩ := w
  have turn := @resumed_seen F view e.program pc regs dst onFail outcome s
  rw [Waiting.ignoring, Frame.ignoring, @resume_eq env, @resume_eq env]
  rw [show (e.ignoring F).program = e.program.ignoring F from rfl, turn]
  rcases resumed_cases e.program pc regs dst onFail outcome s with
    ⟨pc', regs', s', next⟩ | ⟨fault, s', next⟩
  · rw [next]
    rfl
  · rw [next]
    exact faulted_seen views fault e callers s'

/-- A call is made the same way. -/
theorem call_seen (views : Views F view) (env : Environment) (w : Waiting)
    (callers : List Waiting) (callee : Handle) (name : Option String) (s : ParseState) :
    call (environmentIgnoring F env) (w.ignoring F) (callers.map (Waiting.ignoring F)) callee name
      (seen view s) = (call env w callers callee name s).seen F view := by
  unfold call
  rw [programOf_ignoring]
  cases programOf env callee with
  | error fault => exact faulted_seen views fault w.frame.entry callers s
  | ok p =>
    simp only [Except.map, enterRule_seen views]
    cases enterRule env p name s with
    | mk admission s' =>
      cases admission with
      | answered outcome => exact resume_seen views env w callers outcome s'
      | entered frame => rfl

/-- A run is completed the same way. -/
theorem complete_seen (views : Views F view) (env : Environment) (e : Entry)
    (callers : List Waiting) (outcome : Option Product) (s : ParseState) :
    complete (e.ignoring F) (callers.map (Waiting.ignoring F)) outcome (seen view s) =
      (complete e callers outcome s).seen F view := by
  unfold complete
  dsimp only
  rw [leaveRule_seen views]
  cases callers with
  | nil => rfl
  | cons w callers => exact resume_seen views env w callers outcome (leaveRule e outcome s)

/-- A step does the same, whatever stays out of the trace and whether there is one. -/
theorem step_seen (views : Views F view) (env : Environment) (c : Config) :
    step (environmentIgnoring F env) (c.seen F view) = (step env c).seen F view := by
  obtain ⟨s, ⟨e, pc, regs⟩, callers⟩ := c
  rw [Config.seen, Frame.ignoring, step_eq, step_eq]
  rw [show (e.ignoring F).program = e.program.ignoring F from rfl, performed_seen]
  cases performed env e.program pc regs s with
  | «at» pc' regs' s' => rfl
  | calling callee name dst onFail pc' regs' s' =>
    exact call_seen views env ⟨⟨e, pc', regs'⟩, dst, onFail⟩ callers callee name s'
  | ended ending =>
    obtain ⟨fault | outcome, s'⟩ := ending
    · exact faulted_seen views fault e callers s'
    · exact complete_seen views env e callers outcome s'

/-! ## Matches -/

/-- A run does the same. -/
theorem run_seen (views : Views F view) (env : Environment) (fuel : Nat) (c : Config) :
    run (environmentIgnoring F env) fuel (c.seen F view) =
      (run env fuel c).map fun (outcome, s) => (outcome, seen view s) := by
  induction fuel generalizing c with
  | zero => rfl
  | succ fuel ih =>
    rw [run, run, step_seen views]
    cases step env c with
    | running c' => exact ih c'
    | finished outcome s => rfl

/-- A match does the same. -/
theorem matchRule_seen (views : Views F view) (env : Environment) (fuel : Nat) (h : Handle)
    (s : ParseState) : matchRule (environmentIgnoring F env) fuel h (seen view s) =
      (matchRule env fuel h s).map fun (outcome, s) => (outcome, seen view s) := by
  unfold matchRule
  rw [programOf_ignoring]
  cases programOf env h with
  | error fault => rfl
  | ok p =>
    simp only [Except.map, enterRule_seen views]
    cases enterRule env p none s with
    | mk admission s' =>
      cases admission with
      | answered outcome => rfl
      | entered frame =>
        have ran := run_seen views env fuel ⟨s', frame, []⟩
        simp only [Config.seen, List.map_nil] at ran
        simp only [Admission.ignoring, ran, Option.map_map]
        rfl

end

/-- Nothing stays out of the trace but what does already. -/
theorem environmentIgnoring_nil (env : Environment) : environmentIgnoring [] env = env := by
  obtain ⟨text, model, user, mode, arena⟩ := env
  have programs : Program.ignoring [] = id := by
    funext p
    simp [Program.ignoring]
  have matchers : Matcher.ignoring [] = id := by
    funext m
    simp [Matcher.ignoring, programs]
  simp [environmentIgnoring, Arena.ignoring, matchers]

/-- A match comes out the same, at the same place, with the text examined as far and with the same
counters, whether a trace is kept or not and whatever stays out of it, and the trace that is kept
where some rules stay out of it is the one that is kept where they do not, without the events of
these rules. So it is for every draft that can be built, whatever stays out of the trace already,
and every rule that compiles, after any requests and from every state of a parse; and if the match
does not come to an end with the fuel, it does not in any of these ways. -/
theorem match_observed [RegexEngine] {d : GrammarDraft} {g : Grammar} (built : d.build = .ok g)
    (m : RecordModel) (requests : List RuleId) {rule : RuleId} {h : Handle}
    (obtained : (((RuleCache.empty g m.toObjectModel).getAll requests).get rule).1 = .ok h)
    (F : List RuleId) : ∃ g', (d.ignoring F).build = .ok g' ∧
      (((RuleCache.empty g' m.toObjectModel).getAll requests).get rule).1 = .ok h ∧
      ∀ (text : String) (user : Value) (mode : MemoMode) (fuel : Nat) (state : ParseState)
        (c c' : RuleCache),
        c = (((RuleCache.empty g m.toObjectModel).getAll requests).get rule).2 →
        c' = (((RuleCache.empty g' m.toObjectModel).getAll requests).get rule).2 →
        matchRule (environmentOf c' text user mode) fuel h (seen (without F) state) =
          (matchRule (environmentOf c text user mode) fuel h state).map
            (fun (outcome, s) => (outcome, seen (without F) s)) ∧
        matchRule (environmentOf c' text user mode) fuel h (seen (fun _ => none) state) =
          (matchRule (environmentOf c text user mode) fuel h state).map
            (fun (outcome, s) => (outcome, seen (fun _ => none) s)) ∧
        matchRule (environmentOf c text user mode) fuel h (seen (fun _ => none) state) =
          (matchRule (environmentOf c text user mode) fuel h state).map
            (fun (outcome, s) => (outcome, seen (fun _ => none) s)) := by
  have same : ((RuleCache.empty (g.ignoring F) m.toObjectModel).getAll requests).get rule =
      ((((RuleCache.empty g m.toObjectModel).getAll requests).get rule).1,
        (((RuleCache.empty g m.toObjectModel).getAll requests).get rule).2.ignoring F) := by
    rw [RuleCache.empty_ignoring, RuleCache.getAll_ignoring, RuleCache.get_ignoring]
  refine ⟨g.ignoring F, ?_, ?_, ?_⟩
  · rw [GrammarDraft.build_ignoring, built]
    rfl
  · rw [same]
    exact obtained
  · intro text user mode fuel state c c' cached cached'
    have passed : c' = c.ignoring F := by rw [cached', cached, same]
    have environment : environmentOf c' text user mode =
        environmentIgnoring F (environmentOf c text user mode) := by
      rw [passed]
      rfl
    rw [environment]
    refine ⟨matchRule_seen (views_without F) _ fuel h state,
      matchRule_seen (views_none F) _ fuel h state, ?_⟩
    have unflagged := matchRule_seen (views_none []) (environmentOf c text user mode) fuel h state
    rw [environmentIgnoring_nil] at unflagged
    exact unflagged

/-- The match of the letter a, with a trace. -/
theorem letter_match_traced [RegexEngine] : matchRule
    (environmentOf (letterCache.get ⟨0⟩).2 "a" .null .off) 7
    ⟨0⟩ (.initial true) = some (.ok (some (.char 'a')), ⟨⟨1, 1⟩, ⟨⟨0, 0⟩, [], ∅, ⟨1, 0, 0⟩,
      some #[.push ⟨0⟩ none, .pop ⟨0⟩ true (some (.char 'a')) 0 1]⟩⟩) := by
  rw [letter_environment]
  rfl

section

attribute [local instance] letterEngine

/-- The rule of the letter a stays out of the trace: the match is the same, and the trace is
empty. -/
theorem match_observed_letter : ∃ g', (letterDraft.setIgnored ⟨0⟩ true).build = .ok g' ∧
    matchRule (environmentOf ((RuleCache.empty g' RecordModel.empty.toObjectModel).get ⟨0⟩).2 "a"
      .null .off) 7 ⟨0⟩ (.initial true) = some (.ok (some (.char 'a')),
        ⟨⟨1, 1⟩, ⟨⟨0, 0⟩, [], ∅, ⟨1, 0, 0⟩, some #[]⟩⟩) ∧
    matchRule (environmentOf (letterCache.get ⟨0⟩).2 "a" .null .off) 7 ⟨0⟩ (.initial false) =
      some (.ok (some (.char 'a')), ⟨⟨1, 1⟩, ⟨⟨0, 0⟩, [], ∅, ⟨1, 0, 0⟩, none⟩⟩) := by
  obtain ⟨g', flagged, _, alike⟩ :=
    @match_observed _ _ _ letter_built .empty [] ⟨0⟩ ⟨0⟩ letter_get.1 [⟨0⟩]
  obtain ⟨ignored, _, untraced⟩ := alike "a" .null .off 7 (.initial true) _ _ rfl rfl
  refine ⟨g', flagged, ignored.trans ?_, untraced.trans ?_⟩
  · rw [show (RuleCache.empty letterGrammar RecordModel.empty.toObjectModel).getAll [] =
      letterCache from rfl, letter_match_traced]
    rfl
  · rw [show (RuleCache.empty letterGrammar RecordModel.empty.toObjectModel).getAll [] =
      letterCache from rfl, letter_match_traced]
    rfl

end

end Machine

end Packrat
