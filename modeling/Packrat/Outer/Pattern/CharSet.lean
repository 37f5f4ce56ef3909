import Packrat.Text.Table.Cased
import Packrat.Text.Table.CaseIgnorable
import Packrat.Text.Table.WhiteSpace
import Packrat.Outer.Pattern.Table.CaseFolding
import Packrat.Outer.Pattern.Table.DecimalNumber
import Packrat.Outer.Pattern.Table.WordCharacter
import Packrat.Outer.Pattern.Table.UppercaseLetter

/-!
# Sets of characters

The character classes of patterns, built from tables by the operations of sets and by closing a
set under simple case folding.

Part of the outer layer, see `Packrat.Outer.Pattern.Engine`.

* `foldOrbit`: the characters that simple case folding does not tell apart.
* `CharSet`: the expressions for sets of characters.
* `CharSet.mem`: whether a character belongs to a set.
-/

namespace Packrat.Outer.Pattern

open Packrat.Text

/-! ## Case folding -/

/-- The character of a run whose image is the given one. -/
def source? (run : CaseRun) (c : Char) : Option Char :=
  let origin := (c.toNat - run.distance).toNat
  if run.holds origin then some (Char.ofNat origin) else none

/-- The characters with the same simple case folding as the given one, itself included. -/
def foldOrbit (c : Char) : List Char :=
  let folded := shift caseFoldingRuns c
  folded :: caseFoldingRuns.filterMap (fun run => source? run folded)

/-! ## Sets -/

/-- A set of characters. -/
inductive CharSet where
  /-- The characters of a table. -/
  | table (points : CodePoints)
  /-- The characters of either set. -/
  | union (a b : CharSet)
  /-- The characters of both sets. -/
  | inter (a b : CharSet)
  /-- The characters of the first set that are not in the second. -/
  | diff (a b : CharSet)
  /-- The characters of exactly one of the sets. -/
  | symmDiff (a b : CharSet)
  /-- The characters that are not in the set. -/
  | compl (a : CharSet)
  /-- The characters that simple case folding does not tell from one in the set. -/
  | folded (a : CharSet)
  deriving Repr, DecidableEq

namespace CharSet

/-- Whether a character belongs to a set. -/
def mem : CharSet → Char → Bool
  | .table points, c => points.has c
  | .union a b, c => a.mem c || b.mem c
  | .inter a b, c => a.mem c && b.mem c
  | .diff a b, c => a.mem c && !b.mem c
  | .symmDiff a b, c => a.mem c != b.mem c
  | .compl a, c => !a.mem c
  | .folded a, c => (foldOrbit c).any a.mem

/-- The set without characters. -/
def none : CharSet := .table []

/-- The set of all characters. -/
def all : CharSet := .compl none

/-- The characters from `lo` to `hi`. -/
def range (lo hi : Char) : CharSet := .table [(lo.toNat, hi.toNat)]

/-- The set of one character. -/
def single (c : Char) : CharSet := range c c

/-- A set, closed under simple case folding if `fold` says so. -/
def closeIf (fold : Bool) (s : CharSet) : CharSet :=
  if fold then .folded s else s

/-- A set or its complement. -/
def complementIf (negated : Bool) (s : CharSet) : CharSet :=
  if negated then .compl s else s

/-! ## Named sets -/

/-- Decimal digits. -/
def digit (unicode : Bool) : CharSet :=
  .table (if unicode then decimalNumber else [(0x30, 0x39)])

/-- White space. -/
def space (unicode : Bool) : CharSet :=
  .table (if unicode then whiteSpace else [(0x09, 0x0d), (0x20, 0x20)])

/-- Characters of words. -/
def word (unicode : Bool) : CharSet :=
  .table (if unicode then wordCharacter
    else [(0x30, 0x39), (0x41, 0x5a), (0x5f, 0x5f), (0x61, 0x7a)])

/-- The classes of ASCII characters that have a name between colons. -/
def ascii? : String → Option CharSet
  | "alnum" => some (.table [(0x30, 0x39), (0x41, 0x5a), (0x61, 0x7a)])
  | "alpha" => some (.table [(0x41, 0x5a), (0x61, 0x7a)])
  | "ascii" => some (.table [(0x00, 0x7f)])
  | "blank" => some (.table [(0x09, 0x09), (0x20, 0x20)])
  | "cntrl" => some (.table [(0x00, 0x1f), (0x7f, 0x7f)])
  | "digit" => some (.table [(0x30, 0x39)])
  | "graph" => some (.table [(0x21, 0x7e)])
  | "lower" => some (.table [(0x61, 0x7a)])
  | "print" => some (.table [(0x20, 0x7e)])
  | "punct" => some (.table [(0x21, 0x2f), (0x3a, 0x40), (0x5b, 0x60), (0x7b, 0x7e)])
  | "space" => some (space false)
  | "upper" => some (.table [(0x41, 0x5a)])
  | "word" => some (word false)
  | "xdigit" => some (.table [(0x30, 0x39), (0x41, 0x46), (0x61, 0x66)])
  | _ => Option.none

/-- The sets that a property name denotes, the name in lower case and without spaces, hyphens and
underscores. -/
def property? : String → Option CharSet
  | "any" => some all
  | "ascii" => some (.table [(0x00, 0x7f)])
  | "lu" | "uppercaseletter" => some (.table uppercaseLetter)
  | "nd" | "digit" | "decimalnumber" => some (.table decimalNumber)
  | "whitespace" | "wspace" | "space" => some (.table whiteSpace)
  | "cased" => some (.table cased)
  | "caseignorable" | "ci" => some (.table caseIgnorable)
  | _ => Option.none

end CharSet

end Packrat.Outer.Pattern
