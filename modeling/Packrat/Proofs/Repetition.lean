import Packrat.Proofs.CallStack
import Packrat.Proofs.Machine.Step
import Packrat.Proofs.Meaning.Iteration

/-!
# Repetitions

What a call of a repetition does in a match, told by the calls of its element and its separator:
which elements it matches one behind the other, why it stops, and what comes of it.

* `Called`: how calls of a rule at a place come out.
* `Repeats`: what a repetition has come to.

Main statement: `call_repeats`.
-/

namespace Packrat.Machine

open Meaning (Halt Halts Collected haltedOutcome)
open Text (Within)

/-- How calls of a rule at a place come out, and which book each leaves, whatever they are named and
however far the text was examined. Their products stand for values of the type of the rule. -/
def Called (c : RuleCache) (env : Environment) (rule : RuleId) (pos : Nat) :
    Passage Book Outcome :=
  fun book out book' => ∃ h name furthest ending, c.ready[rule]? = some h ∧
    Calls env h name ⟨⟨pos, furthest⟩, book⟩ ending ∧
    Realizes (c.grammar.outputOf rule) out ending ∧ Within env.text pos ending.2.cursor.pos ∧
    ending.2.book = book'

variable {c : RuleCache} {env : Environment} {active : List (RuleId × Nat)} {rule : RuleId}
  {h : Handle}

/-- A call that matches ends further on in the text. -/
theorem called_within (rule : RuleId) (pos : Nat) (book : Book) (value : Option Value) (stop : Nat)
    (book' : Book) (called : Called c env rule pos book (.matched value stop) book') :
    Within env.text pos stop := by
  obtain ⟨_, _, _, _, _, _, ⟨_, _, _, rfl⟩, within, _⟩ := called
  exact within

/-- A call that matches has a value unless its rule has none. -/
theorem called_isNone (pos : Nat) (book : Book) (value : Option Value) (stop : Nat) (book' : Book)
    (called : Called c env rule pos book (.matched value stop) book') :
    value.isNone = (c.grammar.outputOf rule).isVoid := by
  obtain ⟨_, _, _, _, _, _, ⟨product, _, denotes, _⟩, _, _⟩ := called
  exact denotes.isNone_eq

/-- The run of a published program comes out as its rule says, with children that come out as their
calls do. -/
theorem run_called [RegexEngine] (parse : Parse c env) {d : RuleDef} {p : Program}
    (published : c.Published rule h d p) {s : ParseState} (issued : Issued c env active h s)
    {name : Option String} {ending : Ending}
    (runs : Runs env (Calls env) p (.at 0 (.fresh p) (begun p name s)) ending) :
    Concluded env.text (c.grammar.outputOf rule) (Kept c env anything (begun p name s).book)
      s.cursor.pos (fun out => Meaning.rule (Called c env) env (contextOf c rule) s.cursor.pos
        d.rule (begun p name s).book out ending.2.book) ending := by
  obtain ⟨ending', runs', concluded⟩ := issued.passes parse published name (Called c env)
    fun child h name s ending out ready call realizes within =>
      ⟨h, name, s.cursor.furthest, ending, ready, call, realizes, within, rfl⟩
  have known := runs'.mono fun _ _ _ _ call => call.1
  obtain rfl := runs.deterministic known fun _ _ _ _ _ call call' => call.deterministic call'
  exact concluded

/-! ## Calls of repetitions -/

/-- What a repetition has come to, with its outcome, and the place and book where it ends: it came
to a halt behind the last of some elements. It fails just if there were no more of them below the
least number; otherwise its product stands for what is made of all of their values. -/
structure Repeats (c : RuleCache) (env : Environment) (rule element : RuleId)
    (separator : Option RuleId) (min : Nat) (max : Option Nat) (collect : Collect) (start : Nat)
    (book : Book) (outcome : Option Product) (stop : Nat) (book' : Book) (halt : Halt)
    (values : List (Option Value)) (last : Nat) : Prop where
  halts : Halts (Called c env) element separator max start book halt values last book'
  length_le : ∀ bound ∈ max, values.length ≤ bound
  failed_iff : outcome = none ↔ halt = .refused ∧ values.length < min
  enough : outcome ≠ none → min ≤ values.length ∨ halt = .still
  value : ∀ product, outcome = some product → ∃ value,
    Collected (c.grammar.outputOf element) collect values value ∧
      Denotes (c.grammar.outputOf rule) product value
  stop_eq : stop = if outcome = none then start else last

section

variable {element : RuleId} {separator : Option RuleId} {min : Nat} {max : Option Nat}
  {collect : Collect}

/-- The end of a repetition that has come to a halt. -/
theorem repeats_of_halts {start stop last : Nat} {book : Book} {halt : Halt}
    {values : List (Option Value)} {value : Option Value} {outcome : Option Product}
    {s : ParseState} (ordered : ∀ bound ∈ max, min ≤ bound)
    (halts : Halts (Called c env) element separator max start book halt values last s.book)
    (collected : Collected (c.grammar.outputOf element) collect values value)
    (realizes : Realizes (c.grammar.outputOf rule)
      (haltedOutcome min halt values.length value last) (.ok outcome, s))
    (stops : stop = if outcome = none then start else s.cursor.pos) :
    Repeats c env rule element separator min max collect start book outcome stop s.book halt values
      last := by
  unfold haltedOutcome at realizes
  split at realizes
  case isTrue short =>
    cases realizes
    exact ⟨halts, halts.length_le, iff_of_true rfl short, fun some => absurd rfl some, nofun, stops⟩
  case isFalse enough =>
    obtain ⟨product, ok, denotes, here⟩ := realizes
    cases ok
    refine ⟨halts, halts.length_le, iff_of_false nofun enough, fun _ => ?_, ?_, ?_⟩
    · cases halts with
      | full _ full => exact .inl (ordered _ full)
      | refused => exact .inl (Nat.le_of_not_lt fun few => enough ⟨rfl, few⟩)
      | still => exact .inr rfl
    · rintro _ ⟨⟩
      exact ⟨value, collected, denotes⟩
    · rw [stops, if_neg nofun, if_neg nofun]
      exact here

/-- The run of a repetition that does not end with a fault comes to a halt. -/
theorem repeats_of_runs [RegexEngine] (parse : Parse c env) {d : RuleDef} {p : Program}
    (published : c.Published rule h d p)
    (repeats : d.rule = .repetition element separator min max collect) {s s₂ : ParseState}
    (issued : Issued c env active h s) {name : Option String} {outcome : Option Product}
    (runs : Runs env (Calls env) p (.at 0 (.fresh p) (begun p name s)) (.ok outcome, s₂)) :
    ∃ halt values last, Repeats c env rule element separator min max collect s.cursor.pos
      (begun p name s).book outcome (leaveRule (entryOf env p s) outcome s₂).cursor.pos s₂.book halt
      values last := by
  obtain ⟨out, ways, realizes⟩ := (run_called parse published issued runs).of_ok
  obtain ⟨slot, b, emits, _⟩ := published.compiled.code
  rw [repeats] at ways emits
  rw [Lowering.body] at emits
  have checked := Lowering.checkRepetition_of_emits emits
  have textual (text : collect = .text) : (c.grammar.outputOf element).isVoid = false := by
    rcases Lowering.textual_of_checked checked text with same | same
    all_goals exact (congrArg OutputType.isVoid same).trans rfl
  have started := Meaning.halts_of_rounds called_within called_isNone textual
    (Lowering.ordered_of_checked checked) .none (Meaning.collected_start collect _) issued.le
    (Nat.lt_succ_self _) ways
  obtain ⟨fault, rfl⟩ | ⟨halt, values, value, last, halts, collected, rfl⟩ := started
  · cases realizes
  · refine ⟨halt, values, last,
      repeats_of_halts (Lowering.ordered_of_checked checked) halts collected realizes ?_⟩
    rw [leaveRule_cursor]
    cases outcome <;> rfl

end

/-- What a repetition does: in every match with a grammar that can be built, whatever was asked for
and matched before, whatever its element and its separator do, and however outcomes are remembered.
A call of a repetition whose program is entered, and that does not end with a fault, has come to
what its element and its separator come to one behind the other, and ends there; where it fails, it
ends where it began. A text is never so long that a word cannot hold its size. -/
theorem call_repeats [RegexEngine] {d : GrammarDraft} {g : Grammar} (built : d.build = .ok g)
    (m : RecordModel) {c : RuleCache} (history : c.History g m.toObjectModel) {rule : RuleId}
    {h : Handle}
    (ready : c.ready[rule]? = some h) {text : String} (short : text.utf8ByteSize < 2 ^ 63)
    (user : Value) (mode : MemoMode) {state : ParseState}
    (reached : Reached c (environmentOf c text user mode) state) {callee : Handle}
    {name : Option String} {s : ParseState} {active : List Entry}
    (makes : MakesCall (environmentOf c text user mode) h state callee name s active)
    {repeated element : RuleId} {separator : Option RuleId} {min : Nat} {max : Option Nat}
    {collect : Collect} (called : c.ready[repeated]? = some callee) {label : Option String}
    {ignored : Bool}
    (found : g.get? repeated = some
      ⟨label, .repetition element separator min max collect, ignored⟩)
    {p : Program} (program : programOf (environmentOf c text user mode) callee = .ok p)
    {frame : Frame} {s₁ : ParseState}
    (enter : enterRule (environmentOf c text user mode) p name s = (.entered frame, s₁))
    {outcome : Option Product} {s' : ParseState}
    (call : Calls (environmentOf c text user mode) callee name s (.ok outcome, s')) :
    ∃ s₂ halt values last, s' = leaveRule frame.entry outcome s₂ ∧
      Repeats c (environmentOf c text user mode) repeated element separator min max collect
        s.cursor.pos s₁.book outcome s'.cursor.pos s₂.book halt values last := by
  have parse := parse_of_history built history short user mode
  have rests := reached.rests parse (anything_closed _ _)
  obtain ⟨issued, _⟩ := makes.issued parse rests ready
  obtain ⟨_, rfl, _⟩ := history.sound
  obtain ⟨d, p', published⟩ := parse.cache.entries repeated callee called
  cases program.symm.trans (programOf_of_published parse published)
  cases found.symm.trans published.compiled.found
  obtain ⟨free, unknown, rfl, rfl⟩ := begun_of_enterRule enter
  obtain ⟨⟨ended, s₂⟩, runs, ends⟩ :=
    (Answers.course program (calls_iff.mp call)).of_run free unknown
  have same := congrArg Prod.fst ends
  rw [closed_fst] at same
  cases same
  cases ends
  obtain ⟨halt, values, last, repeats⟩ := repeats_of_runs parse published rfl issued runs
  exact ⟨s₂, halt, values, last, rfl, repeats⟩

section

attribute [local instance] letterEngine

/-- Of four letters a, the repetition with such a letter between each two matches the first three:
the fourth is a separator that no element follows. -/
theorem call_repeats_letters : ∃ outcome s₁ s₂ s' halt values,
    Calls (environmentOf (lettersCache.get ⟨1⟩).2 "aaaa" .null .off) ⟨0⟩ none (.initial false)
      (.ok outcome, s') ∧
    Repeats (lettersCache.get ⟨1⟩).2 (environmentOf (lettersCache.get ⟨1⟩).2 "aaaa" .null .off) ⟨1⟩
      ⟨0⟩ (some ⟨0⟩) 1 none .text 0 s₁ outcome 3 s₂ halt values 3 := by
  have history : (lettersCache.get ⟨1⟩).2.History lettersGrammar RecordModel.empty.toObjectModel :=
    .get .empty ⟨1⟩
  have ready : (lettersCache.get ⟨1⟩).2.ready[(⟨1⟩ : RuleId)]? = some ⟨0⟩ :=
    RuleCache.ready_of_get
      (RuleCache.History.empty : lettersCache.History lettersGrammar _).sound.1 letters_get.1
  have found : matchRule (environmentOf (lettersCache.get ⟨1⟩).2 "aaaa" .null .off) 100 ⟨0⟩
      (.initial false) = some (.ok (some (.str "aa")),
        ⟨⟨3, 4⟩, ⟨⟨0, 0⟩, [], ∅, ⟨6, 0, 0⟩, none⟩⟩) := by
    rw [letters_environment]
    rfl
  obtain ⟨value, ⟨ended, s'⟩, call, result⟩ := calls_of_matchRule found
  obtain fault | outcome := ended
  · cases result
  have enter : ∃ frame s₁, enterRule (environmentOf (lettersCache.get ⟨1⟩).2 "aaaa" .null .off)
      (lettersProgram ⟨⟨0⟩, some ⟨1⟩⟩) none (.initial false) = (.entered frame, s₁) := by
    rw [letters_environment]
    exact ⟨_, _, rfl⟩
  obtain ⟨frame, s₁, enter⟩ := enter
  have program : programOf (environmentOf (lettersCache.get ⟨1⟩).2 "aaaa" .null .off) ⟨0⟩ =
      .ok (lettersProgram ⟨⟨0⟩, some ⟨1⟩⟩) := by
    rw [letters_environment]
    rfl
  obtain ⟨s₂, halt, values, last, rfl, repeats⟩ := call_repeats letters_built .empty history ready
    (by decide) .null .off (.start false (Nat.zero_le _)) .outermost ready rfl program enter call
  have stop : (leaveRule frame.entry outcome s₂).cursor.pos = 3 :=
    (congrArg (fun r => r.2.cursor.pos) result).symm
  rw [stop] at repeats
  cases outcome with
  | none => cases repeats.stop_eq
  | some product =>
    cases repeats.stop_eq
    exact ⟨_, _, _, _, halt, values, call, repeats⟩

end

end Packrat.Machine
