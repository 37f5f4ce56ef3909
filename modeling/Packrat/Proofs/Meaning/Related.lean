import Packrat.Proofs.Meaning

/-!
# Meanings in two monads

The meaning of a rule uses its children only through `pure` and `bind`. So what relates the children
in two monads relates the meanings of the rule, if `pure` and `bind` keep it.

* `Meaning.Related`: a relation between the actions of two monads that `pure` and `bind` keep, for
  outcomes with some property.
* `Meaning.Quiet`: a property that outcomes without faults have.

Main statement: `Meaning.rule_related`.
-/

namespace Packrat.Meaning

open Lowering (Context)

section

variable {m n : Type → Type} [Monad m] [Monad n]

/-- A relation that `pure` and `bind` keep, for outcomes with some property. -/
structure Related (P : Outcome → Prop) (R : m Outcome → n Outcome → Prop) : Prop where
  pure : ∀ out : Outcome, P out → R (pure out) (pure out)
  bind : ∀ (x : m Outcome) (y : n Outcome) (f : Outcome → m Outcome) (g : Outcome → n Outcome),
    R x y → (∀ out, P out → R (f out) (g out)) → R (x >>= f) (y >>= g)

/-- All outcomes without faults have a property. -/
structure Quiet (P : Outcome → Prop) : Prop where
  matched : ∀ (value : Option Value) (stop : Nat), P (.matched value stop)
  failed : P .failed

variable {P : Outcome → Prop} {R : m Outcome → n Outcome → Prop}

/-- What comes after a match is related if it is related after every match. -/
theorem onMatch_related (related : Related P R) (quiet : Quiet P) {x : m Outcome} {y : n Outcome}
    {f : Option Value → Nat → m Outcome} {g : Option Value → Nat → n Outcome} (first : R x y)
    (second : ∀ value stop, R (f value stop) (g value stop)) : R (onMatch x f) (onMatch y g) := by
  refine related.bind _ _ _ _ first fun out property => ?_
  cases out with
  | matched value stop => exact second value stop
  | failed => exact related.pure _ quiet.failed
  | faulted fault => exact related.pure _ property

variable {child : RuleId → Nat → m Outcome} {child' : RuleId → Nat → n Outcome}

/-- An element behind its separator is related as the children are. -/
theorem separated_related (related : Related P R) (quiet : Quiet P)
    (children : ∀ rule pos, R (child rule pos) (child' rule pos)) (separator : Option RuleId)
    (leaveOut : Bool) (pos : Nat) :
    R (separated child separator leaveOut pos) (separated child' separator leaveOut pos) := by
  have none : R (pure (.matched none pos)) (pure (.matched none pos)) :=
    related.pure _ (quiet.matched none pos)
  cases separator with
  | none => exact none
  | some separator =>
    cases leaveOut with
    | true => exact none
    | false => exact children separator pos

/-- The parts of a sequence are related as the children are. -/
theorem parts_related (related : Related P R) (quiet : Quiet P)
    (children : ∀ rule pos, R (child rule pos) (child' rule pos)) (ty : Option String)
    (separator : Option RuleId) (items : List Part) (first : Bool) (fields : Fields) (pos : Nat) :
    R (parts child ty separator first items fields pos)
      (parts child' ty separator first items fields pos) := by
  induction items generalizing first fields pos with
  | nil => exact related.pure _ (quiet.matched _ pos)
  | cons part rest ih =>
    rw [parts, parts]
    refine onMatch_related related quiet ?_ fun _ mid => ?_
    · exact separated_related related quiet children separator first pos
    · exact onMatch_related related quiet (children part.rule mid) fun value stop => ih _ _ stop

/-- The candidates of a choice are related as the children are. -/
theorem firstOf_related (related : Related P R) (quiet : Quiet P)
    (children : ∀ rule pos, R (child rule pos) (child' rule pos)) (ty : OutputType) (pos : Nat)
    (candidates : List RuleId) :
    R (firstOf child ty pos candidates) (firstOf child' ty pos candidates) := by
  induction candidates with
  | nil => exact related.pure _ quiet.failed
  | cons candidate rest ih =>
    rw [firstOf, firstOf]
    refine related.bind _ _ _ _ (children candidate pos) fun out property => ?_
    cases out with
    | matched value stop => exact related.pure _ (quiet.matched _ stop)
    | failed => exact ih
    | faulted fault => exact related.pure _ property

/-- The end of a repetition is no fault. -/
theorem enough_quiet (quiet : Quiet P) (min count : Nat) (acc : Option Value) (pos : Nat) :
    P (enough min count acc pos) := by
  unfold enough
  split
  · exact quiet.failed
  · exact quiet.matched acc pos

/-- The faults of gathering have the property, too. -/
def GathersInto (P : Outcome → Prop) (name : String) (collect : Collect) : Prop :=
  ∀ (acc value : Option Value) (fault : EngineFault),
    gather name collect acc value = .error fault → P (.faulted fault)

/-- The rounds of a repetition are related as the children are. -/
theorem rounds_related (related : Related P R) (quiet : Quiet P)
    (children : ∀ rule pos, R (child rule pos) (child' rule pos)) {name : String}
    {collect : Collect} (gathers : GathersInto P name collect) (element : RuleId)
    (separator : Option RuleId) (min : Nat) (max : Option Nat) (fuel count : Nat)
    (acc : Option Value) (pos : Nat) :
    R (rounds child name element separator min max collect fuel count acc pos)
      (rounds child' name element separator min max collect fuel count acc pos) := by
  induction fuel generalizing count acc pos with
  | zero => exact related.pure _ quiet.failed
  | succ fuel ih =>
    have stopped := related.pure _ (enough_quiet quiet min count acc pos)
    rw [rounds, rounds]
    by_cases full : isFull max count
    · rw [if_pos full, if_pos full]
      exact stopped
    rw [if_neg full, if_neg full]
    have round := onMatch_related related quiet
      (separated_related related quiet children separator (count == 0) pos)
      fun _ mid => children element mid
    refine related.bind _ _ _ _ round fun out property => ?_
    cases out with
    | failed => exact stopped
    | faulted fault => exact related.pure _ property
    | matched value stop =>
      dsimp only
      cases gathered : gather name collect acc value with
      | error fault => exact related.pure _ (gathers acc value fault gathered)
      | ok acc' =>
        dsimp only
        by_cases stays : stop = pos
        · rw [if_pos stays, if_pos stays]
          exact related.pure _ (quiet.matched acc' stop)
        · rw [if_neg stays, if_neg stays]
          exact ih (count + 1) acc' stop

/-- A test of one character is no fault. -/
theorem oneOf_quiet (quiet : Quiet P) (test : Char → Bool) (negated : Bool) (pos : Nat)
    (rest : List Char) : P (oneOf test negated pos rest) := by
  cases rest with
  | nil => exact quiet.failed
  | cons c _ =>
    rw [oneOf]
    split
    · exact quiet.failed
    · exact quiet.matched _ _

/-- Rules without children have no faults. -/
theorem leaf?_quiet [RegexEngine] (quiet : Quiet P) (env : Environment) (pos : Nat) (leaf : Rule) :
    P ((leaf? env pos leaf).getD .failed) := by
  cases leaf with
  | literal text ignoreCase =>
    unfold leaf? foldedText
    dsimp only
    split
    · dsimp only [Option.getD]
      split
      · exact quiet.matched _ _
      · exact quiet.failed
    · split
      · exact quiet.matched _ _
      · exact quiet.failed
  | charRange ranges negated => exact oneOf_quiet quiet _ negated pos _
  | charSet chars negated => exact oneOf_quiet quiet _ negated pos _
  | regex pattern =>
    rw [leaf?]
    cases RegexEngine.compile (Regex.anchored pattern) with
    | error message => exact quiet.failed
    | ok r =>
      dsimp only [Except.toOption, Option.map_some, Option.getD_some]
      unfold leading
      split
      · exact quiet.matched _ _
      · exact quiet.failed
  | number kind =>
    rw [leaf?, Option.getD_some]
    split
    · exact quiet.matched _ _
    · exact quiet.failed
  | whitespace => exact quiet.matched _ _
  | eol =>
    rw [leaf?, Option.getD_some]
    unfold lineEnd
    split
    · exact quiet.matched _ _
    · exact quiet.matched _ _
    · exact quiet.matched _ _
    · exact quiet.matched _ _
    · exact quiet.failed
  | eoi =>
    rw [leaf?, Option.getD_some]
    split
    · exact quiet.matched _ _
    · exact quiet.failed
  | userObject => exact quiet.matched _ _
  | location => exact quiet.matched _ _
  | _ => exact quiet.failed

/-! ## Rules -/

/-- Meanings of rules are related if the children are. -/
theorem rule_related [RegexEngine] (related : Related P R) (quiet : Quiet P)
    (children : ∀ rule pos, R (child rule pos) (child' rule pos)) {cx : Context} {r : Rule}
    (gathers : ∀ (element : RuleId) (separator : Option RuleId) (min : Nat) (max : Option Nat)
      (collect : Collect), r = .repetition element separator min max collect →
        GathersInto P cx.name collect) (env : Environment) (pos : Nat) :
    R (rule child env cx pos r) (rule child' env cx pos r) := by
  cases r with
  | sequence ty items separator =>
    exact parts_related related quiet children ty separator items true #[] pos
  | alternative base candidates => exact firstOf_related related quiet children _ pos candidates
  | repetition element separator min max collect =>
    exact rounds_related related quiet children (gathers _ _ _ _ _ rfl) element separator min max
      _ 0 _ pos
  | optional inner =>
    refine related.bind _ _ _ _ (children inner pos) fun out property => ?_
    cases out with
    | matched value stop => exact related.pure _ (quiet.matched _ stop)
    | failed => exact related.pure _ (quiet.matched _ pos)
    | faulted fault => exact related.pure _ property
  | lookAhead inner =>
    refine onMatch_related related quiet (children inner pos) fun _ _ => ?_
    exact related.pure _ (quiet.matched none pos)
  | not inner =>
    refine related.bind _ _ _ _ (children inner pos) fun out property => ?_
    cases out with
    | matched value stop => exact related.pure _ quiet.failed
    | failed => exact related.pure _ (quiet.matched none pos)
    | faulted fault => exact related.pure _ property
  | surround opening inner closing =>
    refine onMatch_related related quiet (children opening pos) fun _ start => ?_
    refine onMatch_related related quiet (children inner start) fun value stop => ?_
    refine onMatch_related related quiet (children (closing.getD opening) stop) fun _ behind => ?_
    exact related.pure _ (quiet.matched _ behind)
  | capture inner =>
    refine onMatch_related related quiet (children inner pos) fun _ stop => ?_
    exact related.pure _ (quiet.matched _ stop)
  | _ => exact related.pure _ (leaf?_quiet quiet env pos _)

end

end Packrat.Meaning
