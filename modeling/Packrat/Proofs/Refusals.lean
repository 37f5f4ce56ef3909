import Packrat.Proofs.CallStack
import Packrat.Proofs.Memoization

/-!
# Refused calls

Which rules the guard refuses to call in a match, and what follows if they are among some rules. The
rules are the same whether outcomes are remembered or not: an outcome that is remembered came of
calls that were refused for rules of the same kind.

* `Refuses`: the guard refuses a call of a rule in a match.
* `Spares`: the machine comes by calls that are refused for some rules only.
* `AllSpared`: so are the calls with remembered outcomes when nothing is remembered.

Main statements: `sparing_of_refuses` and `sparing_mirror`.
-/

namespace Packrat.Machine

variable {env : Environment} {refusable : RuleId → Prop} {h : Handle} {name : Option String}
  {state : ParseState} {ending : Ending}

/-! ## Refusals of a match -/

/-- The guard refuses a call of a rule in a match. -/
def Refuses (env : Environment) (h : Handle) (state : ParseState) (rule : RuleId) : Prop :=
  ∃ callee name state' active p, MakesCall env h state callee name state' active ∧
    programOf env callee = .ok p ∧ p.rule = rule ∧ Refused env p name state'

/-- Where the machine comes by while the run of an entry is at a turn. -/
inductive ComesTo (env : Environment) (first : Config) (e : Entry) (callers : List Waiting) :
    Turn → Prop where
  /-- The run is at an instruction. -/
  | at {pc : Nat} {regs : Registers} {state : ParseState}
    (visits : Visits env first ⟨state, ⟨e, pc, regs⟩, callers⟩) :
    ComesTo env first e callers (.at pc regs state)
  /-- The run has performed an instruction. -/
  | performed {pc : Nat} {regs : Registers} {state : ParseState}
    (visits : Visits env first ⟨state, ⟨e, pc, regs⟩, callers⟩) :
    ComesTo env first e callers (performed env e.program pc regs state)
  /-- A fault ended all runs. -/
  | faulted (fault : EngineFault) (state : ParseState) :
    ComesTo env first e callers (.ended (.error fault, state))

variable {first : Config} {e : Entry} {callers : List Waiting}

/-- What a run comes to is among the places it visits. -/
theorem ComesTo.visits {pc : Nat} {regs : Registers} {state : ParseState}
    (comes : ComesTo env first e callers (.at pc regs state)) :
    Visits env first ⟨state, ⟨e, pc, regs⟩, callers⟩ := by
  generalize here : Turn.at pc regs state = turn at comes
  cases comes with
  | «at» visits =>
    cases here
    exact visits
  | performed visits =>
    refine .next visits ?_
    rw [step_eq, ← here]
    rfl
  | faulted => cases here

/-- The machine comes to where the end of a call leads a run. -/
theorem comesTo_resumed {config : Config} (visits : Visits env first config) {pc : Nat}
    {regs : Registers} {dst : Option Slot} {onFail : Label} {outcome : Option Product}
    {state : ParseState} (next : step env config =
      stepOf env e callers (resumed e.program pc regs dst onFail outcome state)) :
    ComesTo env first e callers (resumed e.program pc regs dst onFail outcome state) := by
  rcases resumed_cases e.program pc regs dst onFail outcome state with
    ⟨pc', regs', state', turn⟩ | ⟨fault, state', turn⟩
  · rw [turn] at next ⊢
    exact .at (.next visits next)
  · rw [turn]
    exact .faulted fault state'

/-- The machine comes to the end of a run that was successful or failed. -/
theorem ComesTo.finished {outcome : Option Product} {state : ParseState}
    (comes : ComesTo env first e callers (.ended (.ok outcome, state))) :
    ∃ config, Visits env first config ∧ step env config = complete e callers outcome state := by
  generalize here : Turn.ended (.ok outcome, state) = turn at comes
  cases comes with
  | «at» => cases here
  | performed visits =>
    refine ⟨_, visits, ?_⟩
    rw [step_eq, ← here]
    rfl
  | faulted => cases here

/-- The calls that the machine comes by are refused for some rules only. -/
def Spares (env : Environment) (refusable : RuleId → Prop) (first : Config) : Prop :=
  ∀ (config : Config) (callee : Handle) (name : Option String) (dst : Option Slot) (onFail : Label)
    (pc : Nat) (regs : Registers) (state : ParseState), Visits env first config →
    performed env config.frame.entry.program config.frame.pc config.frame.regs config.state =
      .calling callee name dst onFail pc regs state →
    ∀ p, programOf env callee = .ok p →
      isReentry p.recursion p.rule state.cursor.pos state.book = true → refusable p.rule

/-- A call that the machine is at is sparing, and the machine resumes the run once it has ended, if
so it is with the calls below it. -/
theorem sparing_call (spares : Spares env refusable first) {depth : Nat}
    (below : ∀ {e callers turn ending}, ComesTo env first e callers turn →
      Runs env (CallsWithin env depth) e.program turn ending →
      Runs env (SparingWithin env refusable depth) e.program turn ending ∧
        ComesTo env first e callers (.ended ending))
    {dst : Option Slot} {onFail : Label} {pc : Nat} {regs : Registers}
    (comes : ComesTo env first e callers (.calling h name dst onFail pc regs state))
    (answers : CallsWithin env (depth + 1) h name state ending) :
    SparingWithin env refusable (depth + 1) h name state ending ∧
      ∀ outcome state', ending = (.ok outcome, state') → ComesTo env first e callers
        (resumed e.program pc regs dst onFail outcome state') := by
  generalize here : Turn.calling h name dst onFail pc regs state = turn at comes
  cases comes with
  | «at» => cases here
  | faulted => cases here
  | @performed pc₀ regs₀ state₀ visits =>
    have allowed := spares _ _ _ _ _ _ _ _ visits here.symm
    have next : step env ⟨state₀, ⟨e, pc₀, regs₀⟩, callers⟩ =
        call env ⟨⟨e, pc, regs⟩, dst, onFail⟩ callers h name state := by
      rw [step_eq, ← here]
      rfl
    unfold call at next
    cases answers with
    | missing program => exact ⟨⟨.missing program, allowed⟩, nofun⟩
    | answered program enter =>
      refine ⟨⟨.answered program enter, allowed⟩, fun outcome state' ended => ?_⟩
      cases ended
      simp only [program, enter] at next
      exact comesTo_resumed visits (next.trans (resume_eq ..))
    | @ran _ _ _ _ p frame inner program enter runs =>
      obtain ⟨start, rfl⟩ := enterRule_entered enter
      simp only [program, enter] at next
      rw [start] at next
      obtain ⟨runs, ends⟩ := below (.at (.next visits next)) runs
      refine ⟨⟨.ran program enter runs, allowed⟩, fun outcome state' ended => ?_⟩
      obtain ⟨fault | outcome', after⟩ := inner
      · cases ended
      · cases ended
        obtain ⟨config, visits, next⟩ := ends.finished
        unfold complete at next
        exact comesTo_resumed visits (next.trans (resume_eq ..))

/-- A run that the machine comes by makes sparing calls, and the machine comes to its end. -/
theorem sparing_runs (spares : Spares env refusable first) {depth : Nat} {turn : Turn}
    (comes : ComesTo env first e callers turn)
    (runs : Runs env (CallsWithin env depth) e.program turn ending) :
    Runs env (SparingWithin env refusable depth) e.program turn ending ∧
      ComesTo env first e callers (.ended ending) := by
  induction depth generalizing e callers turn ending with
  | zero =>
    induction runs with
    | step _ ih =>
      obtain ⟨rest, ends⟩ := ih (.performed comes.visits)
      exact ⟨.step rest, ends⟩
    | faulted call => exact call.elim
    | called call => exact call.elim
    | done => exact ⟨.done, comes⟩
  | succ depth below =>
    induction runs with
    | step _ ih =>
      obtain ⟨rest, ends⟩ := ih (.performed comes.visits)
      exact ⟨.step rest, ends⟩
    | faulted call =>
      obtain ⟨sparing, _⟩ := sparing_call spares below comes call
      exact ⟨.faulted sparing, .faulted _ _⟩
    | called call _ ih =>
      obtain ⟨sparing, resumes⟩ := sparing_call spares below comes call
      obtain ⟨rest, ends⟩ := ih (resumes _ _ rfl)
      exact ⟨.called sparing rest, ends⟩
    | done => exact ⟨.done, comes⟩

/-- A match that refuses calls of some rules only is a sparing call. -/
theorem sparing_of_refuses (call : Calls env h none state ending)
    (covered : ∀ rule, Refuses env h state rule → refusable rule) :
    Sparing env refusable h none state ending := by
  have refused {callee : Handle} {name : Option String} {state' : ParseState} {active : List Entry}
      (makes : MakesCall env h state callee name state' active) (p : Program)
      (program : programOf env callee = .ok p)
      (active : isReentry p.recursion p.rule state'.cursor.pos state'.book = true) :
      refusable p.rule :=
    covered p.rule ⟨callee, name, state', _, p, makes, program, rfl, refused_iff.mpr active⟩
  obtain ⟨_ | depth, answers⟩ := call
  · exact answers.elim
  · have allowed := refused .outermost
    cases answers with
    | missing program => exact ⟨1, .missing program, allowed⟩
    | answered program enter => exact ⟨1, .answered program enter, allowed⟩
    | @ran _ _ _ begun p frame inner program enter runs =>
      obtain ⟨start, rfl⟩ := enterRule_entered enter
      have spares : Spares env refusable ⟨begun, frame, []⟩ :=
        fun config callee name dst onFail pc regs state visits calling =>
          refused (.inner program enter visits calling)
      have first : ComesTo env ⟨begun, frame, []⟩ frame.entry []
          (.at 0 (.fresh frame.entry.program) begun) := .at (by rw [← start]; exact .first)
      exact ⟨depth + 1, .ran program enter (sparing_runs spares first runs).1, allowed⟩

/-! ## Refusals when nothing is remembered -/

section

variable {c : RuleCache} {active active' : List (RuleId × Nat)} {rule : RuleId}

/-- When nothing is remembered, calls of a rule at a place are refused for the same rules if the
same rules are active there. -/
theorem sparing_alike [RegexEngine] (parse : Parse c env) (off : env.memoMode = .off) {depth : Nat}
    {name name' : Option String} {s s' : ParseState} {e e' : Ending}
    (issued : Issued c env active h s) (issued' : Issued c env active' h s')
    (same : s.cursor.pos = s'.cursor.pos) (agrees : Agrees c s.cursor.pos active active')
    (sparing : SparingWithin env refusable depth h name s e) (call' : Calls env h name' s' e') :
    Sparing env refusable h name' s' e' := by
  have lasting := lasting_sameReach c off refusable s.cursor.furthest s'.cursor.furthest
  rw [← forgetful_off off] at issued sparing
  exact (lasting.calls parse issued issued' agrees.covers (.of_eq same) trivial sparing call').2

/-- Calls with a key are refused for some rules only when nothing is remembered. -/
def Spared (c : RuleCache) (env : Environment) (refusable : RuleId → Prop) (key : MemoKey) : Prop :=
  ∀ (active : List (RuleId × Nat)) (h : Handle) (name : Option String) (s : ParseState)
    (e : Ending), c.ready[key.rule]? = some h → Issued c (forgetful env) active h s →
      s.cursor.pos = key.pos → Marks c key.pos active key.mask → Calls (forgetful env) h name s e →
      Sparing (forgetful env) refusable h name s e

/-- Calls with remembered outcomes are. -/
def AllSpared (c : RuleCache) (env : Environment) (refusable : RuleId → Prop) (memo : MemoTable) :
    Prop :=
  ∀ (key : MemoKey) (entry : MemoEntry), memo[key]? = some entry → Spared c env refusable key

/-- One call with a key stands for all of them. -/
theorem spared_of_sparing [RegexEngine] (parse : Parse c env) {s : ParseState} {e : Ending}
    (ready : c.ready[rule]? = some h) (issued : Issued c (forgetful env) active h s)
    (sparing : Sparing (forgetful env) refusable h name s e) {mask : Nat}
    (marks : Marks c s.cursor.pos active mask) :
    Spared c env refusable ⟨rule, s.cursor.pos, mask⟩ := by
  intro active' h' name' s' e' ready' issued' here marks' call'
  cases ready.symm.trans ready'
  obtain ⟨depth, sparing⟩ := sparing
  exact sparing_alike (parse_forgetful parse) rfl issued issued' here.symm (marks.agrees marks')
    sparing call'

/-- What a call has remembered once it has ended was spared. -/
theorem allSpared_closed [RegexEngine] (parse : Parse c env) (precise : env.memoMode = .precise)
    (walkless : c.Walkless) {d : RuleDef} {p : Program} {s s' : ParseState} {e inner : Ending}
    (ready : c.ready[rule]? = some h) (published : c.Published rule h d p)
    (issued : Issued c (forgetful env) active h s) (issued' : Issued c env active h s')
    (here : s.cursor.pos = s'.cursor.pos)
    (sparing : Sparing (forgetful env) refusable h name s e)
    (spared : AllSpared c env refusable inner.2.book.memo) :
    AllSpared c env refusable (closed (entryOf env p s') inner).2.book.memo := by
  intro key entry there
  obtain there | ⟨made, _⟩ := remembered_closed there
  · exact spared key entry there
  · have marks := marks_maskAt parse walkless issued'.tracks
    rw [← here] at marks
    rw [memoKey_precise precise published.compiled.rule made, ← here]
    exact spared_of_sparing parse ready issued sparing marks

/-- The parse state on the left, where outcomes are remembered, is mirrored on the right, and the
calls of what is remembered were spared. -/
def SparedMirror (c : RuleCache) (env : Environment) (refusable : RuleId → Prop)
    (s' s : ParseState) : Prop :=
  Mirrors c env s s' ∧ AllSpared c env refusable s'.book.memo

/-- The mirror of a sparing match looks at what a call can change only. -/
theorem sparedMirror_steady (c : RuleCache) (env : Environment) (refusable : RuleId → Prop) :
    Steady (SparedMirror c env refusable) where
  pos _ _ mirror := (congrArg Cursor.pos mirror.1.1).symm
  moved cursor cursor' book book' pos reach mirror :=
    ⟨(mirrors_steady c env).moved cursor' cursor book' book pos reach mirror.1, mirror.2⟩

/-- Calls are refused for some rules only when nothing is remembered if they are when outcomes
are. -/
theorem sparing_mirror [RegexEngine] (parse : Parse c env) (precise : env.memoMode = .precise)
    (walkless : c.Walkless) {depth : Nat} {s s' : ParseState} {e e' : Ending}
    (issued : Issued c (forgetful env) active h s) (issued' : Issued c env active h s')
    (mirror : SparedMirror c env refusable s' s) (call : Calls (forgetful env) h name s e)
    (sparing : SparingWithin env refusable depth h name s' e') :
    Sparing (forgetful env) refusable h name s e ∧
      AllSpared c env refusable e'.2.book.memo := by
  induction depth generalizing active h name s s' e e' with
  | zero => exact sparing.elim
  | succ depth ih =>
    obtain ⟨rule, ready⟩ := issued.ready
    obtain ⟨d, p, published⟩ := parse.cache.entries rule h ready
    have program := programOf_of_published parse published
    have program' := programOf_of_published (parse_forgetful parse) published
    have here : s.cursor.pos = s'.cursor.pos := congrArg Cursor.pos mirror.1.1
    have guards := reentry_eq published issued'.tracks issued.tracks (by rw [here])
    have allowed : ∀ q, programOf (forgetful env) h = .ok q →
        isReentry q.recursion q.rule s.cursor.pos s.book = true → refusable q.rule := by
      intro q program₀ refused
      cases program'.symm.trans program₀
      exact sparing.2 p program (guards.symm.trans refused)
    have course := Answers.course program' (calls_iff.mp call)
    cases Answers.course program sparing.1 with
    | hit _ found =>
      -- What is replayed on one side is computed on the other, where it is known to be spared.
      obtain ⟨key, made, there⟩ := Option.bind_eq_some_iff.mp found
      have spared := mirror.2 key _ there
      rw [memoKey_precise precise published.compiled.rule made] at spared
      have marks := marks_maskAt parse walkless issued'.tracks
      refine ⟨spared active h name s e ready issued here marks call, ?_⟩
      rw [replayed_memo]
      exact mirror.2
    | cut refused =>
      have refused := guards.trans refused
      obtain rfl := course.of_cut refused
      exact ⟨sparing_iff.mpr ⟨.answered program' (enterRule_cut refused), allowed⟩, mirror.2⟩
    | @ran inner' free' _ runs' =>
      have free := guards.trans free'
      obtain ⟨inner, runs, rfl⟩ := course.of_run free (remembered_off rfl ..)
      have calls := issued.runs (parse_forgetful parse) published (fun _ _ _ _ call => call) runs
      have calls' := issued'.runs parse published
        (fun _ _ _ _ call => ⟨depth, call.calls⟩) runs'
      rw [← here] at calls'
      have begins : SparedMirror c env refusable (begun p name s') (begun p name s) := by
        rw [SparedMirror, Mirrors, begun_cursor, begun_cursor, begun_memo]
        exact mirror
      -- Both runs go side by side, and the calls below are spared by the induction.
      have both := Runs.twins (Sparing (forgetful env) refusable)
        (sparedMirror_steady c env refusable) (.refl (execute_memoMode env .off p))
        (fun h h' name t' t e' e handles related call' call => ?_) calls' calls (.at begins)
      · have sparing := sparing_iff.mpr
          ⟨.ran program' (enterRule_run free (remembered_off rfl ..)) both.2, allowed⟩
        exact ⟨sparing, allSpared_closed parse precise walkless ready published issued issued'
          here sparing both.1.2.2⟩
      · subst handles
        obtain ⟨call, _, issued⟩ := call
        obtain ⟨call', _, issued'⟩ := call'
        obtain ⟨outcome, mirrors⟩ := calls_mirror parse precise walkless issued issued' related.1
          call call'.calls
        obtain ⟨spared, memo⟩ := ih issued issued' related call call'
        exact ⟨⟨outcome.symm, mirrors, memo⟩, spared⟩

end

end Packrat.Machine
