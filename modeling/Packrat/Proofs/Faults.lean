import Packrat.Proofs.Matching
import Packrat.Proofs.Meaning.Related

/-!
# Faults of matches

Programs that were compiled keep all promises but one: nothing makes sure that what is gathered as
text is text.

* `NoText`: the fault of a repetition that gathers text, whose element is no text.
* `OnlyNoText`: a result with no other fault.

Main statement: `match_faults`.
-/

namespace Packrat

open Machine

/-! ## The fault that is left -/

/-- A rule is a repetition that gathers the texts of its elements. -/
def Grammar.GathersText (g : Grammar) (rule : RuleId) : Prop :=
  ∃ (d : RuleDef) (element : RuleId) (separator : Option RuleId) (min : Nat) (max : Option Nat),
    g.get? rule = some d ∧ d.rule = .repetition element separator min max .text

/-- A fault is that of a repetition that gathers texts and whose element came out with a value that
is neither a text nor a character. -/
def NoText (g : Grammar) (fault : EngineFault) : Prop :=
  ∃ (rule : RuleId) (element : Value), g.GathersText rule ∧ Meaning.addedText element = none ∧
    fault = .valueKind (g.displayName rule) "str" element.typeName

/-- A result has no fault but that one. -/
def OnlyNoText (g : Grammar) : Except EngineFault (Option Value) → Prop
  | .ok _ => True
  | .error fault => NoText g fault

/-! ## Faults of meanings -/

/-- If an outcome is a fault, it is that one. -/
def Blameless (g : Grammar) (out : Outcome) : Prop :=
  ∀ fault : EngineFault, out = .faulted fault → NoText g fault

/-- Answers without a fault are blameless. -/
theorem blameless_quiet (g : Grammar) : Meaning.Quiet (Blameless g) where
  matched _ _ _ fault := by cases fault
  failed _ fault := by cases fault

/-- All ways in which something comes out have a property; the other action is not looked at. -/
def Always (P : Outcome → Prop) (act _act : Choice Outcome) : Prop := ∀ out, act out → P out

/-- What always holds goes through the constructs of rules. -/
theorem always_related (P : Outcome → Prop) : Meaning.Related P (Always P) where
  pure out property := by
    rintro _ rfl
    exact property
  bind _ _ _ _ first second := by
    rintro out ⟨mid, came, went⟩
    exact second mid (first mid came) out went

/-- Gathering fails only for a text that is to be gathered, and a value that is none. -/
theorem gather_error {name : String} {collect : Collect} {acc value : Option Value}
    {fault : EngineFault} (failed : Meaning.gather name collect acc value = .error fault) :
    collect = .text ∧ ∃ element, Meaning.addedText element = none ∧
      fault = .valueKind name "str" element.typeName := by
  unfold Meaning.gather at failed
  split at failed
  case h_1 text element =>
    cases added : Meaning.addedText element with
    | some more =>
      rw [added] at failed
      cases failed
    | none =>
      rw [added] at failed
      cases failed
      exact ⟨rfl, element, added, rfl⟩
  case h_2 => cases failed
  case h_3 => cases failed

namespace Machine

variable {c : RuleCache} {env : Environment}

/-- The meaning with no fault but that one. -/
def blameless (c : RuleCache) : Meanings := fun _ _ _ => Blameless c.grammar

/-- The blameless meaning is closed. -/
theorem blameless_closed [RegexEngine] (c : RuleCache) (env : Environment) : Closed c env
    (blameless c) where
  cut _ _ _ _ _ fault same := by cases same
  rule active rule pos d found idle out comes := by
    let act := Meaning.rule (blameless c (entered c.guards rule pos active)) env
      (contextOf c rule) pos d.rule
    suffices related : Always (Blameless c.grammar) act act from related out comes
    refine Meaning.rule_related (always_related _) (blameless_quiet c.grammar)
      (fun _ _ _ blameless => blameless) ?_ env pos
    intro element separator min max collect is acc value fault failed same same'
    cases same'
    obtain ⟨rfl, item, no, rfl⟩ := gather_error failed
    exact ⟨rule, item, ⟨d, element, separator, min, max, found, is⟩, no, rfl⟩
  context _ _ _ _ _ _ blameless := blameless

/-- Matches from a character boundary have no faults but those of repetitions that gather text. -/
theorem match_faults [RegexEngine] {d : GrammarDraft} {g : Grammar} (built : d.build = .ok g)
    (m : RecordModel) {c : RuleCache} (history : c.History g m.toObjectModel) {rule : RuleId}
    {h : Handle} (obtained : (c.get rule).1 = .ok h) {text : String}
    (short : text.utf8ByteSize < 2 ^ 63) (user : Value) (mode : MemoMode) {state : ParseState}
    (reached : Reached (c.get rule).2 (environmentOf (c.get rule).2 text user mode) state)
    (boundary : Text.isBoundary text state.cursor.pos = true) {fuel : Nat}
    {result : Except EngineFault (Option Value) × ParseState}
    (found : matchRule (environmentOf (c.get rule).2 text user mode) fuel h state = some result) :
    OnlyNoText g result.1 := by
  have parse := parse_of_history built (history.get rule) short user mode
  have closed := blameless_closed (c.get rule).2 (environmentOf (c.get rule).2 text user mode)
  obtain ⟨p, ending, _, _, _, unique, concluded, _⟩ := match_comes parse closed
    (reached.rests parse closed) (RuleCache.ready_of_get history.sound.1 obtained)
  have grammar := (RuleCache.get_sound history.sound.1 rule).2.1.trans history.sound.2.1
  rw [unique fuel _ found]
  obtain ⟨outcome, after⟩ := ending
  cases outcome with
  | ok outcome => trivial
  | error fault =>
    rcases concluded.outcome with ⟨out, harmless, realizes⟩ | ⟨inside, _⟩
    · cases out with
      | matched value stop =>
        obtain ⟨_, came, _⟩ := realizes
        cases came
      | failed => cases realizes
      | faulted fault' =>
        cases realizes
        rw [← grammar]
        exact harmless fault rfl
    · rw [show (environmentOf (c.get rule).2 text user mode).text = text from rfl,
        boundary] at inside
      cases inside

section

attribute [local instance] letterEngine

/-- Three letters a are matched without any other fault by rules that call each other, one of which
is a regular expression. -/
theorem match_faults_nested : ∃ result,
    matchRule (environmentOf (nestedCache.get ⟨1⟩).2 "aaa" .null .off) 100 ⟨0⟩ (.initial false) =
      some result ∧ OnlyNoText nestedGrammar result.1 := by
  obtain ⟨state', found, _⟩ := nested_match
  exact ⟨_, found, match_faults nested_built .empty .empty nested_get.1 (by decide) .null .off
    (.start false (Nat.zero_le _)) (by rfl) found⟩

end

end Machine

end Packrat
