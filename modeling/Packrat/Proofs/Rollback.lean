import Packrat.Proofs.Formation
import Packrat.Proofs.Machine.Inside
import Packrat.Proofs.Matching

/-!
# Failing in place

A call that fails goes back to where it began. The programs of rules have done so by themselves by
then, whatever the calls below them did: so nothing would change if calls did not go back.

* `Program.FailsInPlace`: runs of the program that fail end where they began.
* `NoRollback.Calls`: how calls can end if they do not go back.

Main statement: `rollback_redundant`.
-/

namespace Packrat

open Machine Lowering

/-! ## Programs -/

/-- Runs of the program that fail end where they began, on any text and whatever its calls do, as
long as they go back where they fail. A text is never so long that a word cannot hold its size. -/
def Program.FailsInPlace (p : Program) : Prop :=
  ∀ (env : Environment) (calls : CallRelation) (s s' : ParseState), Undoing calls →
    s.cursor.pos < 2 ^ 63 → Runs env calls p (.at 0 (.fresh p) s) (.ok none, s') →
    s'.cursor.pos = s.cursor.pos

/-- The program of a rule fails in place. -/
theorem Lowering.failsInPlace_of_lowerRule [RegexEngine] {g : Grammar} (inferred : g.Inferred)
    {model : ObjectModel} {id : RuleId} {p : Program}
    (lowered : (lowerRule g model id).result = .ok p) (handleOf : RuleId → Option Handle)
    (guard : RecursionCheck) (answered : ∀ c ∈ p.callees, ∃ h, handleOf c.rule = some h) :
    { p.link handleOf with recursion := guard }.FailsInPlace := by
  obtain ⟨d, slot, b, assembled⟩ := assembled_of_lowerRule lowered
  have orderly := lowerRule_orderly inferred assembled.found lowered
  have linked : Program.Orderly d.rule.scans { p.link handleOf with recursion := guard } := orderly
  have inOrder := lowerRule_inOrder inferred lowered handleOf guard answered
  intro env calls s s' undoing short runs
  exact runs.fails_in_place linked inOrder.safe short undoing

namespace Machine

variable {c : RuleCache} {env : Environment} {p : Program} {h : Handle} {name : Option String}
  {s : ParseState} {ending : Ending}

/-- So does every published program. -/
theorem failsInPlace_of_published [RegexEngine] (inferred : c.grammar.Inferred) {rule : RuleId}
    {d : RuleDef} (published : c.Published rule h d p) : p.FailsInPlace := by
  obtain ⟨raw, lowered, same, answered⟩ := published.linked
  rw [same]
  exact failsInPlace_of_lowerRule inferred lowered _ _ answered

/-- All calls go back where they fail. -/
theorem undoing_callsWithin (env : Environment) (depth : Nat) : Undoing (CallsWithin env depth) :=
  fun _ _ _ _ call => call.restores.failed rfl

/-! ## Calls that do not go back -/

namespace NoRollback

/-- The last stages of a call whose program has ended, at whatever place. -/
def leave (e : Entry) (outcome : Option Product) (state : ParseState) : ParseState :=
  let state := releaseGuard e state
  let stop := state.cursor.pos
  rememberOutcome e.key outcome
    (recordEvent e.program (popEvent e.program outcome e.start stop) state)

/-- The end of a call whose run has come to an end. -/
def closed (e : Entry) : Ending → Ending
  | (.ok outcome, state) => (.ok outcome, leave e outcome state)
  | (.error fault, state) => (.error fault, abandon e state)

section

variable (env : Environment)

/-- How a call can end, where `calls` says how the calls of its run can end. -/
inductive Answers (calls : CallRelation) : CallRelation where
  /-- There is no program. -/
  | missing {h : Handle} {name : Option String} {state : ParseState} {fault : EngineFault}
      (program : programOf env h = .error fault) : Answers calls h name state (.error fault, state)
  /-- The guard or the memo table answers. -/
  | answered {h : Handle} {name : Option String} {state state' : ParseState} {p : Program}
      {outcome : Option Product} (program : programOf env h = .ok p)
      (enter : enterRule env p name state = (.answered outcome, state')) :
      Answers calls h name state (.ok outcome, state')
  /-- The program runs. -/
  | ran {h : Handle} {name : Option String} {state state' : ParseState} {p : Program}
      {frame : Frame} {ending : Ending} (program : programOf env h = .ok p)
      (enter : enterRule env p name state = (.entered frame, state'))
      (runs : Runs env calls p (.at 0 (.fresh p) state') ending) :
      Answers calls h name state (closed frame.entry ending)

/-- How a call can end with calls nested to some depth below it. -/
def CallsWithin : (depth : Nat) → CallRelation
  | 0 => fun _ _ _ _ => False
  | depth + 1 => Answers env (CallsWithin depth)

/-- How a call can end. -/
def Calls (h : Handle) (name : Option String) (state : ParseState) (ending : Ending) : Prop :=
  ∃ depth, CallsWithin env depth h name state ending

end

/-- It makes no difference where the run has ended at its start if it has failed. -/
theorem closed_eq {e : Entry} (home : ending.1 = .ok none → ending.2.cursor.pos = e.start) :
    closed e ending = Machine.closed e ending := by
  obtain ⟨_ | outcome, ⟨⟨pos, furthest⟩, book⟩⟩ := ending
  · rfl
  · cases outcome with
    | none =>
      obtain rfl : pos = e.start := home rfl
      rfl
    | some product => rfl

/-- Calls of published rules end as they do with going back. -/
theorem callsWithin_iff [RegexEngine] (sound : c.Sound) (inferred : c.grammar.Inferred)
    (arena : env.arena = c.arena) (short : env.text.utf8ByteSize < 2 ^ 63) {depth : Nat}
    {rule : RuleId} (ready : c.ready[rule]? = some h) (inside : Inside env s) :
    CallsWithin env depth h name s ending ↔ Machine.CallsWithin env depth h name s ending := by
  induction depth generalizing rule h name s ending with
  | zero => exact Iff.rfl
  | succ depth ih =>
    obtain ⟨d, p, published⟩ := sound.entries rule h ready
    have program : programOf env h = .ok p := programOf_of_arena arena published
    -- The calls below are of published rules and in the text, so they end alike.
    have below {callee : Handle} (listed : ∃ index, p.callee index = .ok callee)
        {name : Option String} {s : ParseState} {e : Ending} (inside : Inside env s) :
        CallsWithin env depth callee name s e ↔ Machine.CallsWithin env depth callee name s e := by
      obtain ⟨index, found⟩ := listed
      obtain ⟨child, entry⟩ := entry_of_callee found
      exact ih (published.callees _ _ _ entry).2 inside
    -- The run of the program is back if it has failed, so nothing is left to undo.
    have home {inner : Ending} (runs : Runs env (Machine.CallsWithin env depth) p
        (.at 0 (.fresh p) (begun p name s)) inner) :
        closed (entryOf env p s) inner = Machine.closed (entryOf env p s) inner := by
      refine closed_eq fun failed => ?_
      obtain ⟨_, s'⟩ := inner
      cases failed
      have start := @begun_cursor p name s
      have back := failsInPlace_of_published inferred published env _ _ s'
        (undoing_callsWithin env depth) (by rw [start]; exact inside.pos.trans_lt short) runs
      rw [start] at back
      exact back
    constructor
    · intro call
      cases call with
      | missing program' => exact .missing program'
      | answered program' enter => exact .answered program' enter
      | ran program' enter runs =>
        cases program.symm.trans program'
        obtain ⟨-, -, rfl, rfl⟩ := begun_of_enterRule enter
        obtain ⟨runs, -⟩ := runs.inside (fun callee listed name s outcome s' inside call =>
          ((below listed inside).mp call).inside inside outcome rfl) (.at inside.begun)
        have runs := runs.mono fun callee name s e call => (below call.2.2 call.2.1).mp call.1
        rw [home runs]
        exact .ran program enter runs
    · intro call
      cases call with
      | missing program' => exact .missing program'
      | answered program' enter => exact .answered program' enter
      | ran program' enter runs =>
        cases program.symm.trans program'
        obtain ⟨-, -, rfl, rfl⟩ := begun_of_enterRule enter
        rw [← home runs]
        obtain ⟨runs, -⟩ := runs.inside (fun callee listed name s outcome s' inside call =>
          call.inside inside outcome rfl) (.at inside.begun)
        have runs := runs.mono fun callee name s e call => (below call.2.2 call.2.1).mpr call.1
        exact .ran program enter runs

end NoRollback

/-- **Going back after a failure is redundant.** For every grammar that builds and every object
model: a run of the program of a rule that fails is where it began, on any text, whoever answers for
the children, whatever the guard is, and whatever the calls of the children do, as long as those
that fail leave the position as it is. So calls of the rules of a cache, whatever was asked of it
before, end just as they would if no call went back, however outcomes are remembered. -/
theorem rollback_redundant [RegexEngine] {d : GrammarDraft} {g : Grammar} (built : d.build = .ok g)
    (model : ObjectModel) :
    (∀ (answer : RuleId → Except CompileError Unit) (handleOf : RuleId → Handle) (id : RuleId)
      (made : List RuleId) (p : Program) (guard : RecursionCheck),
      (lowerRule g model id).resolve answer handleOf = (made, .ok p) →
      { p with recursion := guard }.FailsInPlace) ∧
    (∀ (c : RuleCache) (rule : RuleId) (h : Handle) (text : String) (user : Value)
      (mode : MemoMode) (name : Option String) (s : ParseState) (ending : Ending),
      c.History g model → c.ready[rule]? = some h → text.utf8ByteSize < 2 ^ 63 →
      Inside (environmentOf c text user mode) s →
      (NoRollback.Calls (environmentOf c text user mode) h name s ending ↔
        Calls (environmentOf c text user mode) h name s ending)) := by
  have inferred := GrammarDraft.build_inferred built
  constructor
  · intro answer handleOf id made p guard compiled
    obtain ⟨q, lowered, rfl⟩ := lowered_of_resolve compiled
    exact failsInPlace_of_lowerRule inferred lowered (fun rule => some (handleOf rule)) guard
      fun c _ => ⟨handleOf c.rule, rfl⟩
  · intro c rule h text user mode name s ending history ready short inside
    obtain ⟨sound, rfl, _⟩ := history.sound
    exact exists_congr fun depth =>
      NoRollback.callsWithin_iff sound inferred rfl short ready inside

section

attribute [local instance] letterEngine

/-- A rule that matches where another one does not. In the middle of a text its child matches up to
the end: the run comes back before it fails. And in the cache of the two rules, the call of the one
rule comes to an end without going back. -/
theorem rollback_redundant_contrary :
    (∃ s', Runs ⟨"ab", RecordModel.empty.toObjectModel, .null, .off, #[]⟩
        (fun _ _ s e => e = (.ok (some .void), moveTo 2 s))
        (notProgram "one" ⟨0⟩ ⟨⟨1⟩, some ⟨1⟩⟩ (.bit 0))
        (.at 0 ⟨#[0], #[]⟩ ⟨⟨1, 1⟩, (ParseState.initial false).book⟩) (.ok none, s') ∧
      s'.cursor.pos = 1) ∧
    ∃ ending, NoRollback.Calls (environmentOf (contraryCache.get ⟨0⟩).2 "" .null .off) ⟨0⟩ none
      (.initial false) ending := by
  obtain ⟨inPlace, same⟩ :=
    rollback_redundant contrary_built RecordModel.empty.toObjectModel
  have compiled : (lowerRule contraryGrammar RecordModel.empty.toObjectModel ⟨0⟩).resolve
      (fun _ => .ok ()) (fun _ => ⟨1⟩) =
        ([⟨1⟩], .ok (notProgram "one" ⟨0⟩ ⟨⟨1⟩, some ⟨1⟩⟩ .none)) := by
    have lowered : lowerRule contraryGrammar RecordModel.empty.toObjectModel ⟨0⟩ =
        ⟨[⟨1⟩], .ok (notProgram "one" ⟨0⟩ ⟨⟨1⟩, none⟩ .none)⟩ := by cbv
    rw [resolve_answering, lowered]
    simp [Except.map, Program.link, notProgram]
  have runs : ∃ s', Runs ⟨"ab", RecordModel.empty.toObjectModel, .null, .off, #[]⟩
      (fun _ _ s e => e = (.ok (some .void), moveTo 2 s))
      (notProgram "one" ⟨0⟩ ⟨⟨1⟩, some ⟨1⟩⟩ (.bit 0))
      (.at 0 ⟨#[0], #[]⟩ ⟨⟨1, 1⟩, (ParseState.initial false).book⟩) (.ok none, s') :=
    ⟨_, .step (.step (.called rfl (.step (.step .done))))⟩
  obtain ⟨s', runs⟩ := runs
  refine ⟨⟨s', runs, ?_⟩, ?_⟩
  · refine inPlace _ _ ⟨0⟩ _ _ (.bit 0) compiled _ _ _ _ ?_ (by decide) runs
    -- The child never fails.
    intro h name s s' call
    cases call
  · have found : ∃ result, matchRule (environmentOf (contraryCache.get ⟨0⟩).2 "" .null .off) 30
        ⟨0⟩ (.initial false) = some result := by
      rw [contrary_environment]
      exact ⟨_, rfl⟩
    obtain ⟨result, found⟩ := found
    obtain ⟨_, ending, call, _⟩ := calls_of_matchRule found
    exact ⟨ending, (same _ _ ⟨0⟩ "" .null .off none _ ending (contrary_history ⟨0⟩)
      contrary_ready (by decide) (.initial false (Nat.zero_le _))).mpr call⟩

end

end Machine

end Packrat
