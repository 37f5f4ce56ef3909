import Packrat.Grammar.OutputType

/-!
# Inference of output types

Every rule has one output type. Types are found by passes over the rules in order: a pass
computes each rule's type from the current estimates of its children and joins it to the rule's
own estimate. An estimate can be raised three times at most (from unknown to a type, to `Number`,
to `Any`), so `3 n + 1` passes over `n` rules are enough for one that changes nothing.

* `step`: the type of a rule, given estimates for its children.
* `pass`: one pass; it also says whether an estimate changed.
* `inferOutputs`: the types of all rules; a rule whose type stays unknown has type `Any`.
-/

namespace Packrat.Inference

/-- Types known so far, rule by rule. -/
abbrev Estimates := Array (Option OutputType)

/-- The current estimate for a rule. -/
def Estimates.of (types : Estimates) (id : RuleId) : Option OutputType :=
  (types[id.index]?).join

/-- The join of the types that are known, if any is. -/
def joinKnown (types : List (Option OutputType)) : Option OutputType :=
  match types.filterMap id with
  | [] => none
  | first :: rest => some (rest.foldl OutputType.join first)

/-- The type of a rule as far as the estimates for its children determine it. -/
def step (types : Estimates) : Rule → Option OutputType
  | .literal _ _ | .regex _ | .capture _ => some .text
  | .charRange _ _ | .charSet _ _ => some .char
  | .number .integer | .location => some .int
  | .number .float => some .float
  | .number .any => some .number
  | .whitespace | .eol | .eoi | .lookAhead _ | .not _ => some .void
  | .userObject => some .any
  | .sequence (some ty) _ _ => some (.object ty)
  | .sequence none _ _ => some .void
  | .alternative (some base) _ => some (.object base)
  | .alternative none [] => some .void
  | .alternative none candidates => joinKnown (candidates.map types.of)
  | .repetition _ _ _ _ .text => some .text
  | .repetition element _ _ _ .list =>
    (types.of element).map (fun ty => if ty.isVoid then .void else .list)
  | .optional child => (types.of child).map OutputType.optional
  | .surround _ inner _ => types.of inner

/-- An estimate raised by a newly computed type. -/
def raise : Option OutputType → OutputType → OutputType
  | some old, new => old.join new
  | none, new => new

/-- Recompute the estimate of one rule; tells whether it changed. -/
def refine (types : Estimates) (i : Nat) (rule : Rule) : Estimates × Bool :=
  match step types rule with
  | none => (types, false)
  | some new =>
    let old := (types[i]?).join
    let raised := some (raise old new)
    if old = raised then (types, false) else (types.setIfInBounds i raised, true)

/-- Recompute the estimates of the given rules in order, the first of them being rule `i`. -/
def passFrom (types : Estimates) (changed : Bool) (i : Nat) : List Rule → Estimates × Bool
  | [] => (types, changed)
  | rule :: rest =>
    let (types, again) := refine types i rule
    passFrom types (changed || again) (i + 1) rest

/-- Recompute the estimates of all rules in order; tells whether any of them changed. -/
def pass (rules : List Rule) (types : Estimates) : Estimates × Bool :=
  passFrom types false 0 rules

/-- Passes until one changes nothing, but at most the given number of them. -/
def iterate (rules : List Rule) : (passes : Nat) → Estimates → Estimates
  | 0, types => types
  | passes + 1, types =>
    let (types, changed) := pass rules types
    if changed then iterate rules passes types else types

/-- The final estimates for a list of rules. -/
def estimates (rules : List Rule) : Estimates :=
  iterate rules (3 * rules.length + 1) (Array.replicate rules.length none)

end Inference

/-- The output types of a list of rules. -/
def inferOutputs (rules : List Rule) : Array OutputType :=
  (Inference.estimates rules).map (fun ty => ty.getD .any)

end Packrat
