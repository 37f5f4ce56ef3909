/-!
# Sets of characters given by a table

A `CodePoints` table lists inclusive ranges of code points in increasing order.

* `CodePoints.contains`: membership by a scan that stops at the first range above the character.
-/

namespace Packrat.Text

/-- Inclusive ranges of code points, disjoint and in increasing order. -/
abbrev CodePoints := List (Nat × Nat)

namespace CodePoints

/-- Whether a code point lies in one of the ranges. -/
def contains : CodePoints → Nat → Bool
  | [], _ => false
  | (lo, hi) :: rest, c => if c < lo then false else c ≤ hi || contains rest c

/-- Whether the code point of a character lies in one of the ranges. -/
def has (table : CodePoints) (c : Char) : Bool :=
  contains table c.toNat

end CodePoints

end Packrat.Text
