/-!
# Case mappings given by a table

A `CaseRun` shifts every `step`-th code point of an interval by the same distance.

* `CaseRun.image?`: the image of a character in the run.
* `shift`: the image under the first run that holds the character, or the character itself.
-/

namespace Packrat.Text

/-- The code points `first, first + step, …, last`, each mapped `distance` further. -/
structure CaseRun where
  /-- The least code point of the run. -/
  first : Nat
  /-- The greatest code point of the run. -/
  last : Nat
  /-- The gap between neighbours in the run. -/
  step : Nat
  /-- How far each code point is moved. -/
  distance : Int
  deriving Repr, DecidableEq

namespace CaseRun

/-- Whether a code point is one of the run. -/
def holds (run : CaseRun) (c : Nat) : Bool :=
  run.first ≤ c && c ≤ run.last && (c - run.first) % run.step == 0

/-- The image of a character of the run. -/
def image? (run : CaseRun) (c : Char) : Option Char :=
  if run.holds c.toNat then some (Char.ofNat (c.toNat + run.distance).toNat) else none

end CaseRun

/-- The image of a character under the first run that holds it; other characters stay. -/
def shift (runs : List CaseRun) (c : Char) : Char :=
  (runs.findSome? (fun run => run.image? c)).getD c

end Packrat.Text
