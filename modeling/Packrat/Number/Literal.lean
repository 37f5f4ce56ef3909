import Packrat.Grammar.Rule
import Packrat.Number.Decimal
import Packrat.Number.Word
import Packrat.Value.Basic

/-!
# Number literals

A number literal is an optional sign and digits, then, unless integers are asked for, a point with
digits and an exponent with digits, each taken only if its digits follow.

* `Literal.scan`: the longest literal at the start of a text.
* `scanNumber`: its length and value. An integer that does not fit a word is no literal where
  integers are asked for, and a float where any number is.
-/

namespace Packrat.Number

/-- The parts of a number literal. -/
structure Literal where
  /-- The sign, if one is written. -/
  sign : List Char
  /-- The digits before the point. -/
  whole : List Char
  /-- The digits after the point; none if there is no point. -/
  fraction : List Char
  /-- The exponent's letter and sign, empty if there is no exponent. -/
  mark : List Char
  /-- The exponent's digits, empty if there is no exponent. -/
  exponent : List Char
  deriving Repr, DecidableEq

namespace Literal

/-- A sign at the start of a text. -/
def signAt : List Char → List Char
  | c :: _ => if c = '+' || c = '-' then [c] else []
  | [] => []

/-- The digits at the start of a text. -/
def digitsAt (text : List Char) : List Char :=
  text.takeWhile Char.isDigit

/-- The digits after a point at the start of a text. -/
def fractionAt : List Char → List Char
  | '.' :: rest => digitsAt rest
  | _ => []

/-- The letter and sign, and the digits, of an exponent at the start of a text. -/
def exponentAt : List Char → List Char × List Char
  | c :: rest =>
    if c = 'e' || c = 'E' then
      let sign := signAt rest
      let digits := digitsAt (rest.drop sign.length)
      if digits.isEmpty then ([], []) else (c :: sign, digits)
    else ([], [])
  | [] => ([], [])

/-- The characters of a literal. -/
def chars (l : Literal) : List Char :=
  l.sign ++ l.whole ++ (if l.fraction.isEmpty then [] else '.' :: l.fraction) ++ l.mark ++
    l.exponent

/-- The longest literal at the start of a text. -/
def scan (kind : NumberKind) (text : List Char) : Option Literal :=
  let sign := signAt text
  let text := text.drop sign.length
  let whole := digitsAt text
  if whole.isEmpty then none
  else
    let text := text.drop whole.length
    if kind = .integer then some ⟨sign, whole, [], [], []⟩
    else
      let fraction := fractionAt text
      let text := if fraction.isEmpty then text else text.drop (fraction.length + 1)
      let (mark, exponent) := exponentAt text
      some ⟨sign, whole, fraction, mark, exponent⟩

/-- Whether a fraction or an exponent is written. -/
def isFractional (l : Literal) : Bool :=
  !l.fraction.isEmpty || !l.exponent.isEmpty

/-- Whether a minus sign is written. -/
def isNegative (l : Literal) : Bool :=
  l.sign == ['-']

/-- The integer that sign and digits denote. -/
def toInt (l : Literal) : Int :=
  if l.isNegative then -(digitsValue l.whole : Int) else digitsValue l.whole

/-- The power of ten that the exponent denotes. -/
def power (l : Literal) : Int :=
  if l.mark.contains '-' then -(digitsValue l.exponent : Int) else digitsValue l.exponent

/-- The double nearest to the literal. -/
def toFloat (l : Literal) : Float :=
  (Decimal.ofParts l.isNegative l.whole l.fraction l.power).toFloat

/-- The value of a literal: an integer that does not fit a word has none where integers are asked
for. -/
def value? (kind : NumberKind) (l : Literal) : Option Value :=
  match kind with
  | .integer => if Word.Fits l.toInt then some (.int l.toInt) else none
  | .float => some (.float l.toFloat)
  | .any =>
    if l.isFractional then some (.float l.toFloat)
    else if Word.Fits l.toInt then some (.int l.toInt)
    else some (.float l.toFloat)

end Literal

/-- The characters that number literals are made of. -/
def isLiteralChar (c : Char) : Bool :=
  c.isDigit || c = '+' || c = '-' || c = '.' || c = 'e' || c = 'E'

/-- The length and value of the number literal at the start of a text. -/
def scanNumber (kind : NumberKind) (text : List Char) : Option (Nat × Value) :=
  match Literal.scan kind text with
  | none => none
  | some l => (l.value? kind).map (fun v => (l.chars.length, v))

end Packrat.Number
