import Packrat.Pool
import Packrat.Proofs.CallStack
import Packrat.Proofs.Memoization
import Packrat.Proofs.Cache.Session
import Packrat.Proofs.Machine.Step
import Packrat.Proofs.Machine.Twins
import Packrat.Proofs.Trace

/-!
# Every execution is new

Where outcomes are remembered by rule, place and active rules, no program of a concrete rule runs
twice on the same occasion. An outcome is remembered only once its run has ended, so what remains to
be excluded is a run below a run of its own kind. Between two such runs no guarded rule is entered,
as it would be active for the inner one and not for the outer one; but chains of calls of rules
without guards do not come back to where they began.

* `executions`: the runs that begin during a match.
* `occasion`: what a run of a concrete rule is remembered by.
* `Chronicle`: matches one after another on one parse state, with all runs that have begun.
* `Upright`: what the runs on the stack have to do with each other.
* `Ledger`: each occasion is either remembered or that of a run on the stack.

Main statement: `executed_once`.
-/

namespace Packrat

/-! ## Chains of calls without guards -/

/-- A rule asks for a rule without a guard. -/
def RequestsFree [RegexEngine] (g : Grammar) (model : ObjectModel) (guards : Guards)
    (rule child : RuleId) : Prop :=
  Requests g model rule child ∧ guards.contains child = false

/-- Chains of rules without guards do not come back. -/
theorem Grounded.no_cycle [RegexEngine] {g : Grammar} {model : ObjectModel} {guards : Guards}
    {rule : RuleId} (grounded : Grounded g model guards rule) :
    ¬ Relation.TransGen (RequestsFree g model guards) rule rule := by
  induction grounded with
  | @intro rule _ ih =>
    intro cycle
    obtain ⟨child, ⟨asks, free⟩, back⟩ := Relation.TransGen.head'_iff.mp cycle
    -- The cycle can be entered at the child just as well.
    exact ih child asks free (.tail' back ⟨asks, free⟩)

namespace Machine

/-! ## The log -/

/-- The run that begins with a step, if one does. -/
def begunBetween (c c' : Config) : List Entry :=
  if c.callers.length < c'.callers.length then [c'.frame.entry] else []

/-- The runs that begin from a configuration on, in their order, as long as the fuel lasts. -/
def begunFrom (env : Environment) : Nat → Config → List Entry
  | 0, _ => []
  | fuel + 1, c =>
    match step env c with
    | .running c' => begunBetween c c' ++ begunFrom env fuel c'
    | .finished _ _ => []

/-- The runs that begin during a match, in their order: those of the calls that are neither refused
by the guard nor answered from the memo table. -/
def executions (env : Environment) (fuel : Nat) (h : Handle) (state : ParseState) : List Entry :=
  match programOf env h with
  | .error _ => []
  | .ok p =>
    match enterRule env p none state with
    | (.answered _, _) => []
    | (.entered frame, state) => frame.entry :: begunFrom env fuel ⟨state, frame, []⟩

/-- A rule, a place, and the mask of the guard at that place, before the rule is entered. -/
def occasion (e : Entry) : MemoKey := ⟨e.program.rule, e.start, maskAt e.savedGuard e.start⟩

/-- The runs of concrete rules. -/
def concreteRuns (runs : List Entry) : List Entry := runs.filter fun e => e.program.concrete

/-- The occasions on which concrete rules were run. -/
def occasions (runs : List Entry) : List MemoKey := (concreteRuns runs).map occasion

/-- Matches one after another on one parse state, without faults, with all runs that have begun. -/
inductive Chronicle (c : RuleCache) (env : Environment) : ParseState → List Entry → Prop where
  /-- Before the first match. -/
  | start (traced : Bool) {pos : Nat} (le : pos ≤ env.text.utf8ByteSize) :
      Chronicle c env ⟨⟨pos, 0⟩, (ParseState.initial traced).book⟩ []
  /-- After one more match. -/
  | after {state state' : ParseState} {runs : List Entry} {rule : RuleId} {h : Handle} {fuel : Nat}
      {outcome : Option Value} (before : Chronicle c env state runs)
      (ready : c.ready[rule]? = some h)
      (found : matchRule env fuel h state = some (.ok outcome, state')) :
      Chronicle c env state' (runs ++ executions env fuel h state)

variable {c : RuleCache} {env : Environment} {e : Entry} {outer runs log : List Entry}
  {memo : MemoTable} {key : MemoKey}

/-- The states of a chronicle are those of a parse. -/
theorem Chronicle.reached {state : ParseState} (chronicle : Chronicle c env state runs) :
    Reached c env state := by
  induction chronicle with
  | start traced le => exact .start traced le
  | after _ ready found ih => exact .after ih ready found

/-! ## Occasions -/

/-- The occasions of runs in two lists. -/
theorem occasions_append (runs runs' : List Entry) :
    occasions (runs ++ runs') = occasions runs ++ occasions runs' := by
  simp only [occasions, concreteRuns, List.filter_append, List.map_append]

/-- A run of a concrete rule is an occasion. -/
theorem occasions_concrete (concrete : e.program.concrete = true) (runs : List Entry) :
    occasions (e :: runs) = occasion e :: occasions runs := by
  rw [occasions, concreteRuns, List.filter_cons, if_pos concrete]
  rfl

/-- A run of another rule is none. -/
theorem occasions_abstract (concrete : ¬ e.program.concrete = true) (runs : List Entry) :
    occasions (e :: runs) = occasions runs := by
  rw [occasions, concreteRuns, List.filter_cons, if_neg concrete]
  rfl

/-- An occasion is that of some run of a concrete rule. -/
theorem mem_occasions :
    key ∈ occasions runs ↔ ∃ e ∈ runs, e.program.concrete = true ∧ occasion e = key := by
  simp only [occasions, concreteRuns, List.mem_map, List.mem_filter, and_assoc]

/-- What the outcome of a run is remembered by. -/
theorem key_entryOf (precise : env.memoMode = .precise) (p : Program) (state : ParseState) :
    (entryOf env p state).key =
      if p.concrete then some (occasion (entryOf env p state)) else none := by
  unfold entryOf memoKey
  rw [precise]
  cases p.concrete <;> rfl

/-! ## The stack -/

/-- What a run on the stack has to do with the runs outside it. -/
structure Stands [RegexEngine] (c : RuleCache) (outer : List Entry) (e : Entry) : Prop where
  ready : ∃ h, c.ready[e.program.rule]? = some h
  grounded : Grounded c.grammar c.model c.guards e.program.rule
  marks : Marks c e.start (activeOf c.guards outer) (maskAt e.savedGuard e.start)
  free : (e.program.rule, e.start) ∉ activeOf c.guards outer
  le : ∀ e' ∈ outer, e'.start ≤ e.start
  called : ∀ e' ∈ outer.head?, Requests c.grammar c.model e'.program.rule e.program.rule
  key : e.key = if e.program.concrete then some (occasion e) else none

/-- Every run on a stack, innermost first, has this to do with the runs outside it. -/
inductive Upright [RegexEngine] (c : RuleCache) : List Entry → Prop where
  /-- Nothing runs. -/
  | nil : Upright c []
  /-- One more run. -/
  | cons {e : Entry} {outer : List Entry} (stands : Stands c outer e) (below : Upright c outer) :
    Upright c (e :: outer)

/-- Every run of an upright stack stands on those below it. -/
theorem Upright.stands [RegexEngine] {before : List Entry}
    (upright : Upright c (before ++ e :: outer)) : Stands c outer e := by
  induction before with
  | nil =>
    cases upright with
    | cons stands _ => exact stands
  | cons _ _ ih =>
    cases upright with
    | cons _ below => exact ih below

/-- A run outside another one leads to it by requests for rules without guards, if the runs in
between are of such rules. -/
theorem Upright.leads [RegexEngine] {between : List Entry} {e' : Entry}
    (upright : Upright c (e :: between ++ e' :: outer))
    (free : ∀ x ∈ e :: between, c.guards.contains x.program.rule = false) :
    Relation.TransGen (RequestsFree c.grammar c.model c.guards) e'.program.rule
      e.program.rule := by
  induction between generalizing e with
  | nil =>
    cases upright with
    | cons stands _ => exact .single ⟨stands.called e' rfl, free e List.mem_cons_self⟩
  | cons b between ih =>
    cases upright with
    | cons stands below =>
      have outside := ih below fun x member => free x (List.mem_cons_of_mem e member)
      exact .tail outside ⟨stands.called b rfl, free e List.mem_cons_self⟩

/-- Between a run and one outside it at the same place with the same mask, all runs are of rules
without guards. -/
theorem Stands.free_between [RegexEngine] {between : List Entry} {e' : Entry}
    (stands : Stands c (between ++ e' :: outer) e) (upright : Upright c (between ++ e' :: outer))
    (start : e'.start = e.start)
    (mask : maskAt e'.savedGuard e'.start = maskAt e.savedGuard e.start) :
    ∀ x ∈ between, c.guards.contains x.program.rule = false := by
  -- Both runs have the same mask, so the same rules are active for them at their place.
  have marks := upright.stands.marks
  rw [mask, start] at marks
  have agrees := stands.marks.agrees marks
  intro x inside
  obtain ⟨above, below, rfl⟩ := List.append_of_mem inside
  rw [List.append_assoc, List.cons_append] at upright stands agrees
  have middle := upright.stands
  have here : x.start = e.start := by
    have after := stands.le x (by simp)
    have before := middle.le e' (by simp)
    omega
  -- If it is guarded, its rule is active for the inner run and so for the outer one, but then it
  -- would have been refused.
  rw [← Bool.not_eq_true]
  intro guarded
  obtain ⟨h, ready⟩ := middle.ready
  have active : (x.program.rule, e.start) ∈ activeOf c.guards outer := by
    rw [← agrees x.program.rule h ready, mem_activeOf]
    exact ⟨guarded, x, by simp, rfl, here⟩
  obtain ⟨_, y, outside, named, placed⟩ := mem_activeOf.mp active
  refine middle.free (mem_activeOf.mpr ⟨guarded, y, ?_, named, placed.trans here.symm⟩)
  exact List.mem_append_right _ (List.mem_cons_of_mem _ outside)

/-- No run outside a run is one of the same rule at the same place with the same mask. -/
theorem Stands.fresh [RegexEngine] (stands : Stands c outer e) (upright : Upright c outer) :
    ∀ e' ∈ outer, occasion e' ≠ occasion e := by
  intro e' member same
  obtain ⟨rule, start, mask⟩ := MemoKey.mk.inj same
  have last : c.guards.contains e.program.rule = false := by
    rw [← Bool.not_eq_true]
    intro guarded
    exact stands.free (mem_activeOf.mpr ⟨guarded, e', member, rule, start⟩)
  obtain ⟨between, rest, rfl⟩ := List.append_of_mem member
  have free := stands.free_between upright start mask
  have whole : Upright c (e :: between ++ e' :: rest) := .cons stands upright
  have cycle := whole.leads (List.forall_mem_cons.mpr ⟨last, free⟩)
  rw [rule] at cycle
  exact stands.grounded.no_cycle cycle

/-! ## What is remembered -/

/-- Each occasion of the log is that of one run, which has either ended and is remembered, or is
active. -/
structure Ledger (memo : MemoTable) (active log : List MemoKey) : Prop where
  once : log.Nodup
  apart : active.Nodup
  pending : ∀ key ∈ active, key ∉ memo
  logged : ∀ key ∈ log, key ∈ memo ∨ key ∈ active
  size : memo.size + active.length = log.length

namespace Ledger

variable {active taken : List MemoKey}

/-- A run begins on an occasion that is neither remembered nor that of an active run. -/
theorem enter (ledger : Ledger memo active taken) (unknown : key ∉ memo) (fresh : key ∉ active) :
    Ledger memo (key :: active) (taken ++ [key]) where
  once := by
    have new : key ∉ taken := fun old => (ledger.logged key old).elim unknown fresh
    rw [List.nodup_append_comm, List.singleton_append, List.nodup_cons]
    exact ⟨new, ledger.once⟩
  apart := List.nodup_cons.mpr ⟨fresh, ledger.apart⟩
  pending := List.forall_mem_cons.mpr ⟨unknown, ledger.pending⟩
  logged := by
    intro other member
    rcases List.mem_append.mp member with old | new
    · exact (ledger.logged other old).imp_right (List.mem_cons_of_mem key)
    · rw [List.mem_singleton.mp new]
      exact .inr List.mem_cons_self
  size := by
    have size := ledger.size
    simp only [List.length_cons, List.length_append, List.length_nil]
    omega

/-- The innermost run ends, and is remembered. -/
theorem leave (ledger : Ledger memo (key :: active) taken) (entry : MemoEntry) :
    Ledger (memo.insert key entry) active taken where
  once := ledger.once
  apart := ledger.apart.of_cons
  pending := by
    intro other member
    rw [Std.HashMap.mem_insert, not_or]
    constructor
    · intro same
      rw [eq_of_beq same] at ledger
      exact (List.nodup_cons.mp ledger.apart).1 member
    · exact ledger.pending other (List.mem_cons_of_mem key member)
  logged := by
    intro other member
    rw [Std.HashMap.mem_insert]
    rcases ledger.logged other member with old | inside
    · exact .inl (.inr old)
    · rcases List.mem_cons.mp inside with rfl | inside
      · exact .inl (.inl (beq_self_eq_true _))
      · exact .inr inside
  size := by
    have size := ledger.size
    have unknown := ledger.pending key List.mem_cons_self
    rw [Std.HashMap.size_insert, if_neg unknown]
    simp only [List.length_cons] at size
    omega

end Ledger

/-- All runs that have begun are accounted for: the active ones stand upright, each occasion is
either remembered or that of an active run, and the counters count the runs. -/
structure Accounted [RegexEngine] (c : RuleCache) (book : Book) (active log : List Entry) :
    Prop where
  upright : Upright c active
  ledger : Ledger book.memo (occasions active) (occasions log)
  counted : executed book.stats = log.length

namespace Accounted

variable {state state' : ParseState} {p : Program} {name : Option String}

/-- Before the first match nothing has run. -/
theorem initial [RegexEngine] (c : RuleCache) (traced : Bool) :
    Accounted c (ParseState.initial traced).book [] [] := by
  refine ⟨.nil, ⟨.nil, .nil, ?_, ?_, rfl⟩, rfl⟩
  · exact fun _ member => absurd member List.not_mem_nil
  · exact fun _ member => absurd member List.not_mem_nil

/-- A call is answered without a run. -/
theorem answer [RegexEngine] (accounted : Accounted c state.book runs log)
    {outcome : Option Product} (enter : enterRule env p name state = (.answered outcome, state')) :
    Accounted c state'.book runs log := by
  obtain ⟨upright, ledger, counted⟩ := accounted
  obtain rfl | ⟨entry, rfl⟩ := answered_of_enterRule enter
  · exact ⟨upright, ledger, countCut_executed.trans counted⟩
  · refine ⟨upright, ?_, (replayed_executed entry).trans counted⟩
    rw [replayed_memo]
    exact ledger

/-- A run begins. -/
theorem enter [RegexEngine] (accounted : Accounted c state.book outer log) {frame : Frame}
    (enter : enterRule env p name state = (.entered frame, state'))
    (stands : Stands c outer frame.entry) :
    Accounted c state'.book (frame.entry :: outer) (log ++ [frame.entry]) := by
  obtain ⟨upright, ledger, counted⟩ := accounted
  obtain ⟨_, unknown, rfl, rfl⟩ := begun_of_enterRule enter
  refine ⟨.cons stands upright, ?_, ?_⟩
  · rw [begun_memo, occasions_append]
    by_cases concrete : p.concrete = true
    · have known : (entryOf env p state).key = some (occasion (entryOf env p state)) := by
        rw [stands.key]
        exact if_pos concrete
      rw [occasions_concrete concrete, occasions_concrete concrete]
      refine ledger.enter ?_ fun active => ?_
      · change remembered (entryOf env p state).key _ = none at unknown
        rw [known] at unknown
        exact (getElem?_eq_none_iff _ _).mp unknown
      · obtain ⟨e', member, _, same⟩ := mem_occasions.mp active
        exact stands.fresh upright e' member same
    · rw [occasions_abstract concrete, occasions_abstract concrete]
      simpa [occasions, concreteRuns] using ledger
  · rw [begun_executed, counted, List.length_append]
    rfl

/-- The innermost run ends. -/
theorem leave [RegexEngine] (accounted : Accounted c state.book (e :: outer) log)
    (outcome : Option Product) : Accounted c (leaveRule e outcome state).book outer log := by
  obtain ⟨upright, ledger, counted⟩ := accounted
  cases upright with
  | cons stands below =>
    refine ⟨below, ?_, (congrArg executed leaveRule_stats).trans counted⟩
    rw [leaveRule_memo, stands.key]
    by_cases concrete : e.program.concrete = true
    · rw [occasions_concrete concrete] at ledger
      rw [if_pos concrete]
      exact ledger.leave _
    · rw [occasions_abstract concrete] at ledger
      rw [if_neg concrete]
      exact ledger

end Accounted

/-! ## Runs that begin -/

/-- A run that is at a call has looked its callee up. -/
theorem callee_of_performed {p : Program} {pc pc' : Nat} {regs regs' : Registers}
    {state state' : ParseState} {callee : Handle} {name : Option String} {dst : Option Slot}
    {onFail : Label}
    (turn : performed env p pc regs state = .calling callee name dst onFail pc' regs' state') :
    ∃ index, p.callee index = .ok callee := by
  obtain ⟨cursor, book⟩ := state
  unfold performed at turn
  dsimp only at turn
  cases fetched : p.instruction pc with
  | error fault =>
    rw [fetched] at turn
    cases turn
  | ok i =>
    rw [fetched] at turn
    dsimp only at turn
    cases result : execute env p i ⟨regs, cursor⟩ with
    | error fault after =>
      rw [result] at turn
      cases turn
    | ok control after =>
      rw [result] at turn
      cases control with
      | call h label dst' onFail' =>
        cases turn
        exact callee_of_execute result
      | _ => cases turn

/-- A published program calls rules that it asked for. -/
theorem requests_of_performed [RegexEngine] (parse : Parse c env) {rule : RuleId} {h : Handle}
    {d : RuleDef} {p : Program} (published : c.Published rule h d p) {pc pc' : Nat}
    {regs regs' : Registers}
    {state state' : ParseState} {callee : Handle} {name : Option String} {dst : Option Slot}
    {onFail : Label}
    (turn : performed env p pc regs state = .calling callee name dst onFail pc' regs' state')
    {q : Program} (program : programOf env callee = .ok q) :
    Requests c.grammar c.model rule q.rule := by
  obtain ⟨index, found⟩ := callee_of_performed turn
  obtain ⟨child, there⟩ := entry_of_callee found
  obtain ⟨requested, ready⟩ := published.callees index.index child callee there
  obtain ⟨d', q', published'⟩ := parse.cache.entries child callee ready
  cases program.symm.trans (programOf_of_published parse published')
  rw [published'.compiled.rule]
  exact requested

/-- A run that begins stands on the runs that are active. -/
theorem stands_of_enter [RegexEngine] (parse : Parse c env) (precise : env.memoMode = .precise)
    (walkless : c.Walkless) {h : Handle} {name : Option String} {state state' : ParseState}
    {p : Program} {frame : Frame} (issued : Issued c env (activeOf c.guards outer) h state)
    (program : programOf env h = .ok p)
    (enter : enterRule env p name state = (.entered frame, state'))
    (le : ∀ e ∈ outer, e.start ≤ state.cursor.pos)
    (called : ∀ e ∈ outer.head?, Requests c.grammar c.model e.program.rule p.rule) :
    Stands c outer frame.entry := by
  obtain ⟨free, _, rfl, _⟩ := begun_of_enterRule enter
  obtain ⟨rule, ready⟩ := issued.ready
  obtain ⟨d, p', published⟩ := parse.cache.entries rule h ready
  cases program.symm.trans (programOf_of_published parse published)
  have named := published.compiled.rule
  subst named
  refine ⟨⟨h, ready⟩, published.grounded, marks_maskAt parse walkless issued.tracks, ?_, le,
    called, key_entryOf precise p state⟩
  intro active
  rw [(reentry_iff published issued.tracks).mpr active] at free
  cases free

/-! ## Steps of the machine -/

section

variable {state state' : ParseState} {frame frame' : Frame} {w : Waiting} {callers : List Waiting}

/-- No run has begun if the stack is as high as before. -/
@[simp] theorem begunBetween_same :
    begunBetween ⟨state, frame, callers⟩ ⟨state', frame', callers⟩ = [] :=
  if_neg (Nat.lt_irrefl _)

/-- The innermost run has begun if the stack has grown. -/
@[simp] theorem begunBetween_begun :
    begunBetween ⟨state, frame, callers⟩ ⟨state', frame', w :: callers⟩ = [frame'.entry] :=
  if_pos (Nat.lt_succ_self _)

/-- No run has begun if the stack has shrunk. -/
@[simp] theorem begunBetween_ended :
    begunBetween ⟨state, frame, w :: callers⟩ ⟨state', frame', callers⟩ = [] :=
  if_neg (Nat.not_lt_of_le (Nat.le_succ _))

end

/-- An instruction leaves the book as it is. -/
theorem book_of_performed {p : Program} {pc : Nat} {regs : Registers} {state : ParseState}
    {turn : Turn} (performs : performed env p pc regs state = turn) :
    turn.state.book = state.book := by
  rw [← performs, performed_book]

/-- So does going on behind a call. -/
theorem book_of_resumed {p : Program} {pc : Nat} {regs : Registers} {dst : Option Slot}
    {onFail : Label} {outcome : Option Product} {state : ParseState} {turn : Turn}
    (resumes : resumed p pc regs dst onFail outcome state = turn) :
    turn.state.book = state.book := by
  rw [← resumes, resumed_book]

/-- A run that begins by a call of the run on top of the stack stands on the stack. -/
theorem stands_of_step [RegexEngine] (parse : Parse c env) (precise : env.memoMode = .precise)
    (walkless : c.Walkless) {callers : List Waiting} {pc pc₁ : Nat} {regs regs₁ : Registers}
    {state state₁ state' : ParseState} (track : OnTrack c env callers e (.at pc regs state))
    {callee : Handle} {name : Option String} {dst : Option Slot} {onFail : Label}
    (turn : performed env e.program pc regs state =
      .calling callee name dst onFail pc₁ regs₁ state₁) {q : Program}
    (program : programOf env callee = .ok q) {frame : Frame}
    (enter : enterRule env q name state₁ = (.entered frame, state')) :
    Stands c (e :: entriesOf callers) frame.entry := by
  obtain ⟨_, _, _, _, began⟩ := track.began
  obtain ⟨d, published⟩ := began.published
  have calling := track.performed
  rw [turn] at calling
  obtain ⟨_, _, le, issued⟩ := calling.calling
  apply stands_of_enter parse precise walkless issued program enter
  · intro e' member
    rcases List.mem_cons.mp member with rfl | member
    · exact le
    · exact Nat.le_trans (track.start_le e' member) le
  · intro e' head
    cases head
    exact requests_of_performed parse published turn program

/-- A step keeps account of the runs that have begun. -/
theorem Accounted.step [RegexEngine] (parse : Parse c env) (precise : env.memoMode = .precise)
    (walkless : c.Walkless) {config config' : Config} (track : config.OnTrack c env)
    (accounted : Accounted c config.state.book config.active log)
    (next : step env config = .running config') :
    Accounted c config'.state.book config'.active (log ++ begunBetween config config') := by
  have moves := moves_of_step next
  cases moves with
  | @performed state state' _ _ _ _ _ _ turn =>
    have same : state'.book = state.book := book_of_performed turn
    rw [begunBetween_same, List.append_nil, same]
    exact accounted
  | @answered state state₁ state₂ state' _ _ _ _ _ _ _ _ _ _ _ _ _ _ turn _ enter resumes =>
    have same : state₁.book = state.book := book_of_performed turn
    have same' : state'.book = state₂.book := book_of_resumed resumes
    rw [← same] at accounted
    rw [begunBetween_same, List.append_nil, same']
    exact accounted.answer enter
  | @entered state state₁ _ _ _ _ _ _ _ _ _ _ _ _ _ turn program enter =>
    have same : state₁.book = state.book := book_of_performed turn
    rw [← same] at accounted
    rw [begunBetween_begun]
    exact accounted.enter enter (stands_of_step parse precise walkless track turn program enter)
  | @returned state state₁ state' e _ _ _ _ _ _ _ _ _ _ outcome turn resumes =>
    have same : state₁.book = state.book := book_of_performed turn
    have same' : state'.book = (leaveRule e outcome state₁).book := book_of_resumed resumes
    rw [← same] at accounted
    rw [begunBetween_ended, List.append_nil, same']
    exact accounted.leave outcome

/-- Once the outermost run has ended without a fault, no run is active. -/
theorem Accounted.run [RegexEngine] (parse : Parse c env) (precise : env.memoMode = .precise)
    (walkless : c.Walkless) {fuel : Nat} {config : Config} {outcome : Option Product}
    {state : ParseState} (track : config.OnTrack c env)
    (accounted : Accounted c config.state.book config.active log)
    (found : run env fuel config = some (.ok outcome, state)) :
    Accounted c state.book [] (log ++ begunFrom env fuel config) := by
  induction fuel generalizing config log with
  | zero => cases found
  | succ fuel ih =>
    rw [run_succ] at found
    rw [begunFrom]
    have moves := moves_step env config
    cases next : Machine.step env config with
    | running config' =>
      rw [next] at found
      dsimp only
      rw [← List.append_assoc]
      exact ih (track.step parse next) (accounted.step parse precise walkless track next) found
    | finished outcome' state' =>
      rw [next] at found moves
      cases found
      dsimp only
      rw [List.append_nil]
      cases moves with
      | @finished state state₁ _ _ _ _ turn =>
        have same : state₁.book = state.book := book_of_performed turn
        rw [← same] at accounted
        exact accounted.leave outcome

/-! ## Matches one after another -/

/-- A match keeps account of the runs that have begun. -/
theorem Accounted.match [RegexEngine] (parse : Parse c env) (precise : env.memoMode = .precise)
    (walkless : c.Walkless) {state state' : ParseState} (rests : Rests c env anything state)
    (accounted : Accounted c state.book [] log) {rule : RuleId} {h : Handle}
    (ready : c.ready[rule]? = some h) {fuel : Nat} {outcome : Option Value}
    (found : matchRule env fuel h state = some (.ok outcome, state')) :
    Accounted c state'.book [] (log ++ executions env fuel h state) := by
  have issued : Issued c env (activeOf c.guards []) h state := rests.issued ready
  obtain ⟨_, _, call, _⟩ := match_comes parse (anything_closed c env) rests ready
  unfold matchRule at found
  rw [executions]
  cases program : programOf env h with
  | error fault =>
    rw [program] at found
    cases found
  | ok p =>
    rw [program] at found
    dsimp only at found ⊢
    cases enter : enterRule env p none state with
    | mk admission state₁ =>
      rw [enter] at found
      cases admission with
      | answered outcome =>
        cases found
        dsimp only
        rw [List.append_nil]
        exact accounted.answer enter
      | entered frame =>
        dsimp only at found ⊢
        obtain ⟨⟨_ | outcome, after⟩, ran, same⟩ := Option.map_eq_some_iff.mp found
        · cases same
        · cases same
          have stands := stands_of_enter parse precise walkless issued program enter (by simp)
            (by simp)
          obtain ⟨_, began⟩ := Began.enter parse issued call program enter
          rw [List.append_cons]
          exact (accounted.enter enter stands).run parse precise walkless (.outermost began) ran

/-- Whatever was matched before, all runs that have begun are accounted for. -/
theorem Chronicle.accounted [RegexEngine] (parse : Parse c env) (precise : env.memoMode = .precise)
    (walkless : c.Walkless) {state : ParseState} (chronicle : Chronicle c env state runs) :
    Accounted c state.book [] runs := by
  induction chronicle with
  | start traced le => exact .initial c traced
  | after before ready found ih =>
    have rests := before.reached.rests parse (anything_closed c env)
    exact ih.match parse precise walkless rests ready found

/-- No program of a concrete rule runs twice at the same place with the same mask of active rules,
not even within a run of its own: for every grammar that can be built, whatever was asked for, as
long as no program is guarded by a walk, and for every sequence of matches without faults on one
parse state that remembers outcomes by active rules. As many outcomes are remembered as programs of
concrete rules have run. The runs are all there are: one for each call that was neither refused by
the guard nor answered from the memo table. -/
theorem executed_once [RegexEngine] {d : GrammarDraft} {g : Grammar} (built : d.build = .ok g)
    (m : RecordModel) {c : RuleCache} (history : c.History g m.toObjectModel)
    (walkless : c.Walkless) {text : String}
    (short : text.utf8ByteSize < 2 ^ 63) (user : Value) {state : ParseState} {runs : List Entry}
    (chronicle : Chronicle c (environmentOf c text user .precise) state runs) :
    (occasions runs).Nodup ∧ (Buffers.ofState state).memoSize = (concreteRuns runs).length ∧
      executed state.book.stats = runs.length := by
  have parse := parse_of_history built history short user .precise
  obtain ⟨_, ledger, counted⟩ := chronicle.accounted parse rfl walkless
  refine ⟨ledger.once, ledger.size.trans ?_, counted⟩
  rw [occasions, List.length_map]

section

attribute [local instance] letterEngine

/-- Three letters a: four of nineteen calls are answered from the table, and the runs of the fifteen
others are all there are. -/
theorem executed_once_nested : ∃ state runs,
    Chronicle (nestedCache.get ⟨1⟩).2 (environmentOf (nestedCache.get ⟨1⟩).2 "aaa" .null .precise)
        state runs ∧
      state.book.stats = ⟨19, 4, 0⟩ ∧ (occasions runs).Nodup ∧
      (Buffers.ofState state).memoSize = (concreteRuns runs).length ∧
      runs.length = 15 := by
  obtain ⟨state, found, stats⟩ := nested_recalls false
  have chronicle := (Chronicle.start false (Nat.zero_le _)).after nested_ready found
  obtain ⟨once, size, counted⟩ := executed_once nested_built .empty (nested_history ⟨1⟩)
    nested_walkless (by decide) .null chronicle
  rw [stats] at counted
  exact ⟨state, _, chronicle, stats, once, size, (Int.ofNat.inj counted).symm⟩

end

end Machine

end Packrat
