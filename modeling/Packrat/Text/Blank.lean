import Packrat.Text.Table.WhiteSpace

/-!
# Surrounding white space

* `trimmed`: a text without the white space at its two ends, where white space is any character
  with the property White_Space.
-/

namespace Packrat.Text

/-- Whether a character is white space. -/
def isBlank (c : Char) : Bool :=
  whiteSpace.has c

/-- A list of characters without white space at its two ends. -/
def trimmedChars (chars : List Char) : List Char :=
  ((chars.dropWhile isBlank).reverse.dropWhile isBlank).reverse

/-- A text without white space at its two ends. -/
def trimmed (text : String) : String :=
  String.ofList (trimmedChars text.toList)

/-- Equality of texts up to the case of the letters `a` to `z`. -/
def eqIgnoringAsciiCase (a b : String) : Bool :=
  a.toList.map Char.toLower == b.toList.map Char.toLower

end Packrat.Text
