import Packrat.Outer.Pattern.CharSet

/-!
# Patterns

The structure of a regular expression once its flags are resolved.

Part of the outer layer, see `Packrat.Outer.Pattern.Engine`.

* `Look`: the conditions on a place in the text.
* `Look.holds`: when a condition holds, given the characters before and after the place.
* `Pattern`: the expressions.
* `Pattern.canBeEmpty`: whether a match may be empty.
* `Pattern.size`: how many states its automaton has.
-/

namespace Packrat.Outer.Pattern

/-- A condition on a place in the text. -/
inductive Look where
  /-- The start of the text. -/
  | start
  /-- The end of the text. -/
  | stop
  /-- The start of a line; with `crlf`, carriage returns end lines as well. -/
  | lineStart (crlf : Bool)
  /-- The end of a line; with `crlf`, carriage returns end lines as well. -/
  | lineEnd (crlf : Bool)
  /-- A change between word and other characters. -/
  | wordBoundary (unicode : Bool)
  /-- No change between word and other characters. -/
  | notWordBoundary (unicode : Bool)
  /-- The start of a word. -/
  | wordStart (unicode : Bool)
  /-- The end of a word. -/
  | wordEnd (unicode : Bool)
  /-- No word character before the place. -/
  | wordStartHalf (unicode : Bool)
  /-- No word character after the place. -/
  | wordEndHalf (unicode : Bool)
  deriving Repr, DecidableEq

/-- Whether a character next to a place is one of a word. -/
def isWordChar (unicode : Bool) : Option Char → Bool
  | none => false
  | some c => (CharSet.word unicode).mem c

/-- Whether a condition holds between two neighbouring characters; none stands for an end of the
text. -/
def Look.holds (before after : Option Char) : Look → Bool
  | .start => before.isNone
  | .stop => after.isNone
  | .lineStart false => before.isNone || before == some '\n'
  | .lineStart true =>
    before.isNone || before == some '\n' || (before == some '\r' && after != some '\n')
  | .lineEnd false => after.isNone || after == some '\n'
  | .lineEnd true =>
    after.isNone || after == some '\r' || (after == some '\n' && before != some '\r')
  | .wordBoundary u => isWordChar u before != isWordChar u after
  | .notWordBoundary u => isWordChar u before == isWordChar u after
  | .wordStart u => !isWordChar u before && isWordChar u after
  | .wordEnd u => isWordChar u before && !isWordChar u after
  | .wordStartHalf u => !isWordChar u before
  | .wordEndHalf u => !isWordChar u after

end Packrat.Outer.Pattern

namespace Packrat.Outer

/-- A regular expression. -/
inductive Pattern where
  /-- The empty text. -/
  | empty
  /-- One character of a set. -/
  | one (set : Pattern.CharSet)
  /-- A condition on the place. -/
  | look (look : Pattern.Look)
  /-- One expression after another. -/
  | seq (first second : Pattern)
  /-- The first expression, or else the second. -/
  | alt (first second : Pattern)
  /-- From `min` to `max` repetitions, as many as possible if greedy and else as few. -/
  | rep (body : Pattern) (min : Nat) (max : Option Nat) (greedy : Bool)
  deriving Repr, DecidableEq

namespace Pattern

/-- Whether a match may be empty. -/
def canBeEmpty : Pattern → Bool
  | .empty | .look _ => true
  | .one _ => false
  | .seq p q => p.canBeEmpty && q.canBeEmpty
  | .alt p q => p.canBeEmpty || q.canBeEmpty
  | .rep body min _ _ => min == 0 || body.canBeEmpty

/-- How many states the automaton of a pattern has. -/
def size : Pattern → Nat
  | .empty => 0
  | .one _ | .look _ => 1
  | .seq p q => p.size + q.size
  | .alt p q => p.size + q.size + 1
  | .rep body min none _ => Nat.max min 1 * body.size + 2
  | .rep body min (some max) _ => min * body.size + (max - min) * (body.size + 1)

end Pattern

end Packrat.Outer
