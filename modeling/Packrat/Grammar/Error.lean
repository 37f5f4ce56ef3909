import Packrat.Grammar.OutputType
import Packrat.Text.Quoted

/-!
# Errors in grammars

What can be wrong with the declaration of a rule. Names and references are checked when the
grammar is built, everything that depends on types when a rule is first compiled.

* `GrammarError`: the causes. `rule` is always the display name of the rule at fault.
* `GrammarError.message`: their wording.
-/

namespace Packrat

/-- A fault in the declaration of a rule. -/
inductive GrammarError where
  /-- A reference to a rule that the grammar does not have. -/
  | unknownRule (rule : String) (target : RuleId)
  /-- A rule without a body. -/
  | undefinedRule (rule : String)
  /-- A name given to two rules. -/
  | duplicateRuleName (name : String)
  /-- A literal without characters. -/
  | emptyLiteral (rule : String)
  /-- A character set or a list of ranges without members. -/
  | emptyCharSet (rule : String)
  /-- A character range whose ends are in the wrong order. -/
  | invalidCharRange (rule : String) (lo hi : Char)
  /-- A text that is not a regular expression, with what the engine says about it. -/
  | invalidRegex (rule message : String)
  /-- A type that the object model does not know. -/
  | unknownType (rule ty : String)
  /-- A sequence type whose objects cannot be made. -/
  | abstractType (rule ty : String)
  /-- A part named for a slot that the type does not have. -/
  | unknownSlot (rule ty slot : String)
  /-- A named part that produces no value. -/
  | voidSlot (rule slot : String)
  /-- A named part in a sequence without a type. -/
  | untypedNamedPart (rule slot : String)
  /-- An alternative without candidates. -/
  | emptyAlternative (rule : String)
  /-- A candidate that does not produce a concrete implementer of the base. -/
  | notAnImplementer (rule candidate base : String)
  /-- A repetition whose upper bound is below its lower one. -/
  | invalidRepeatBounds (rule : String) (min max : Nat)
  /-- A repetition that gathers text from elements that produce something else. -/
  | textRepeatElement (rule found : String)
  deriving Repr, DecidableEq

/-- The wording of a fault in the declaration of a rule. -/
def GrammarError.message : GrammarError → String
  | .unknownRule rule target => s!"rule `{rule}` references unknown rule {target}"
  | .undefinedRule rule => s!"rule `{rule}` was declared but never defined"
  | .duplicateRuleName name => s!"rule name `{name}` is declared more than once"
  | .emptyLiteral rule => s!"rule `{rule}`: literal must not be empty"
  | .emptyCharSet rule => s!"rule `{rule}`: character set is empty"
  | .invalidCharRange rule lo hi =>
    let low := Text.quotedChar lo
    let high := Text.quotedChar hi
    s!"rule `{rule}`: character range {low}..={high} is inverted"
  | .invalidRegex rule message => s!"rule `{rule}`: invalid regex: {message}"
  | .unknownType rule ty =>
    s!"rule `{rule}`: output type `{ty}` is not known to the object model"
  | .abstractType rule ty =>
    s!"rule `{rule}`: output type `{ty}` is abstract and cannot be constructed"
  | .unknownSlot rule ty slot => s!"rule `{rule}`: type `{ty}` has no slot named `{slot}`"
  | .voidSlot rule slot => s!"rule `{rule}`: part `{slot}` produces no value"
  | .untypedNamedPart rule slot =>
    s!"rule `{rule}`: named part `{slot}` requires a typed sequence"
  | .emptyAlternative rule => s!"rule `{rule}`: alternative has no candidates"
  | .notAnImplementer rule candidate base =>
    s!"rule `{rule}`: candidate `{candidate}` is not a concrete implementer of `{base}`"
  | .invalidRepeatBounds rule min max =>
    s!"rule `{rule}`: repeat bounds min={min} max={max} are invalid"
  | .textRepeatElement rule found =>
    s!"rule `{rule}`: text repetition element produces {found}, expected text or char"

end Packrat
