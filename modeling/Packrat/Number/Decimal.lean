/-!
# Decimal numbers

A decimal number `± digits · 10^exponent` and the double nearest to it.

* `digitsValue`: the number that a list of decimal digits denotes.
* `Decimal.toFloat`: the nearest double, ties to the even mantissa; too large values are infinite.
* `Decimal.ofText?`: reading a decimal with optional sign, fraction and exponent.
* `readFloat?`: any double, `inf` and `nan` included.
-/

namespace Packrat.Number

/-- The number that decimal digits denote, continuing a number already read. -/
def digitsValueFrom (n : Nat) : List Char → Nat
  | [] => n
  | c :: rest => digitsValueFrom (10 * n + (c.toNat - '0'.toNat)) rest

/-- The number that decimal digits denote. -/
def digitsValue (digits : List Char) : Nat :=
  digitsValueFrom 0 digits

/-- The decimal number `± coefficient · 10^exponent`. -/
structure Decimal where
  /-- Whether a minus sign stands in front. -/
  negative : Bool
  /-- All digits, read as one number. -/
  coefficient : Nat
  /-- The power of ten that scales them. -/
  exponent : Int
  deriving Repr, DecidableEq

namespace Decimal

/-- The decimal with the given sign, digits before and after the point, and exponent. -/
def ofParts (negative : Bool) (whole fraction : List Char) (exponent : Int) : Decimal :=
  ⟨negative, digitsValueFrom (digitsValue whole) fraction, exponent - fraction.length⟩

/-- The double nearest to the absolute value. Beyond the exponents of all doubles the answer is
infinite or zero without scaling. -/
def magnitude (d : Decimal) : Float :=
  let size := (d.coefficient.log2 : Int) * 30103 / 100000 + d.exponent
  if d.coefficient = 0 then 0.0
  else if 400 < size then 1.0 / 0.0
  else if size < -400 then 0.0
  else Float.ofScientific d.coefficient (d.exponent < 0) d.exponent.natAbs

/-- The double nearest to a decimal number. -/
def toFloat (d : Decimal) : Float :=
  if d.negative then -d.magnitude else d.magnitude

/-! ## Reading -/

/-- An optional sign in front of the rest of a text; `true` for a minus. -/
def signOf : List Char → Bool × List Char
  | '-' :: rest => (true, rest)
  | '+' :: rest => (false, rest)
  | rest => (false, rest)

/-- The exponent that ends a decimal: nothing, or `e`, an optional sign and digits. -/
def exponentOf? : List Char → Option Int
  | [] => some 0
  | c :: rest =>
    if c = 'e' || c = 'E' then
      let (negative, digits) := signOf rest
      if digits.isEmpty || !digits.all Char.isDigit then none
      else some (if negative then -(digitsValue digits : Int) else digitsValue digits)
    else none

/-- A decimal without its sign: digits, a point and more digits where at least one digit stands
on some side of the point, and an optional exponent. -/
def unsignedOf? (negative : Bool) (text : List Char) : Option Decimal :=
  let whole := text.takeWhile Char.isDigit
  match text.dropWhile Char.isDigit with
  | '.' :: rest =>
    let fraction := rest.takeWhile Char.isDigit
    if whole.isEmpty && fraction.isEmpty then none
    else (exponentOf? (rest.dropWhile Char.isDigit)).map (ofParts negative whole fraction)
  | rest =>
    if whole.isEmpty then none
    else (exponentOf? rest).map (ofParts negative whole [])

/-- A decimal with an optional sign. -/
def ofText? (text : List Char) : Option Decimal :=
  let (negative, rest) := signOf text
  unsignedOf? negative rest

end Decimal

/-- The double a text denotes: a decimal, or one of the words for infinity and not-a-number in
any case. -/
def readFloat? (text : String) : Option Float :=
  let (negative, rest) := Decimal.signOf text.toList
  let word := rest.map Char.toLower
  let signed (x : Float) : Float := if negative then -x else x
  if word = "inf".toList || word = "infinity".toList then some (signed (1.0 / 0.0))
  else if word = "nan".toList then some (signed (0.0 / 0.0))
  else (Decimal.unsignedOf? negative rest).map Decimal.toFloat

end Packrat.Number
