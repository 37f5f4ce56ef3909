import Packrat.Text.Table.LowerCase
import Packrat.Text.Table.Cased
import Packrat.Text.Table.CaseIgnorable

/-!
# Case

Lower-casing of whole texts.

* `lowerCase`: full lower-casing. A capital sigma becomes the final form `ς` where it ends a
  word, and `İ` becomes an `i` followed by a combining dot; every other character is mapped on
  its own.
-/

namespace Packrat.Text

/-- The lower-case form of one character outside any context. -/
def lowerChar (c : Char) : List Char :=
  if c = 'İ' then ['i', '\u0307'] else [shift lowerCaseRuns c]

/-- Whether the first character that is not case-ignorable is a cased one. -/
def meetsCased (chars : List Char) : Bool :=
  match chars.dropWhile (fun c => caseIgnorable.has c) with
  | [] => false
  | c :: _ => cased.has c

/-- A capital sigma ends a word when a cased character stands before it and none after it,
case-ignorable characters aside. `before` is in reverse order. -/
def sigmaIsFinal (before after : List Char) : Bool :=
  meetsCased before && !meetsCased after

/-- The lower-case form of a character between two texts, the first in reverse order. -/
def lowerBetween (before : List Char) (c : Char) (after : List Char) : List Char :=
  if c = 'Σ' then [if sigmaIsFinal before after then 'ς' else 'σ'] else lowerChar c

/-- Lower-case characters one by one. `before` holds those already read and `done` what they
became, both in reverse order. -/
def lowerChars (before done : List Char) : List Char → List Char
  | [] => done.reverse
  | c :: after =>
    lowerChars (c :: before) ((lowerBetween before c after).reverse ++ done) after

/-- The lower-case form of a text. -/
def lowerCase (text : String) : String :=
  String.ofList (lowerChars [] [] text.toList)

end Packrat.Text
