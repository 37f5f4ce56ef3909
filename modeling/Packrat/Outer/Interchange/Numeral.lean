import Packrat.Number.Decimal
import Packrat.Number.Word

/-!
# Numerals of documents

Numbers as they are written in JSON texts: digits without leading zeros, a fraction, an exponent.

Part of the outer layer, see `Packrat.Outer.Interchange.Tagged`.

* `Numeral`: the parts of a written number.
* `Numeral.take?`: the numeral at the front of a text.
* `Numeral.toInt?`: its value as a word.
* `Numeral.toFloat?`: its value as a double. Digits count as long as they fit 64 bits together;
  the number they form is scaled once, so the result may differ from the nearest double in its
  last bit.
-/

namespace Packrat.Outer.Interchange

/-- A number as it is written. -/
structure Numeral where
  /-- Whether a minus sign stands in front. -/
  negative : Bool
  /-- The digits before the point. -/
  whole : List Char
  /-- The digits after the point; none if there is no point. -/
  fraction : List Char
  /-- The exponent: whether it is negative, and its digits. -/
  exponent : Option (Bool × List Char)
  deriving Repr, DecidableEq

namespace Numeral

/-! ## Reading -/

/-- The digits before the point and what follows them: a zero, or digits that start with another
one. -/
def takeWhole? : List Char → Option (List Char × List Char)
  | '0' :: rest =>
    match rest with
    | c :: _ => if c.isDigit then none else some (['0'], rest)
    | [] => some (['0'], [])
  | text =>
    match text.takeWhile Char.isDigit with
    | [] => none
    | digits => some (digits, text.dropWhile Char.isDigit)

/-- The digits after the point, if there is a point, and what follows them. -/
def takeFraction? : List Char → Option (List Char × List Char)
  | '.' :: rest =>
    match rest.takeWhile Char.isDigit with
    | [] => none
    | digits => some (digits, rest.dropWhile Char.isDigit)
  | text => some ([], text)

/-- The exponent, if there is one, and what follows it. -/
def takeExponent? : List Char → Option (Option (Bool × List Char) × List Char)
  | [] => some (none, [])
  | c :: rest =>
    if c = 'e' || c = 'E' then
      let (negative, digits) := Number.Decimal.signOf rest
      match digits.takeWhile Char.isDigit with
      | [] => none
      | exponent => some (some (negative, exponent), digits.dropWhile Char.isDigit)
    else some (none, c :: rest)

/-- The numeral at the front of a text, and what follows it. -/
def take? (text : List Char) : Option (Numeral × List Char) := do
  let (negative, unsigned) := match text with
    | '-' :: rest => (true, rest)
    | rest => (false, rest)
  let (whole, rest) ← takeWhole? unsigned
  let (fraction, rest) ← takeFraction? rest
  let (exponent, rest) ← takeExponent? rest
  return (⟨negative, whole, fraction, exponent⟩, rest)

/-! ## Integers -/

/-- The value as a natural number; numerals with a sign, a fraction or an exponent have none. -/
def toNat? (n : Numeral) : Option Nat :=
  if n.negative || !n.fraction.isEmpty || n.exponent.isSome then none
  else some (Number.digitsValue n.whole)

/-- The value as a word; numerals with a fraction or an exponent have none, nor has a negative
zero. -/
def toInt? (n : Numeral) : Option Int :=
  if !n.fraction.isEmpty || n.exponent.isSome then none
  else
    let size := Number.digitsValue n.whole
    let value := if n.negative then -(size : Int) else size
    if n.negative && size == 0 then none
    else if Word.Fits value then some value
    else none

/-! ## Floats -/

/-- A number `value · 10^exponent` being read; once it is full, no more digits go into it. -/
structure Significand where
  /-- The digits so far, as a number below `2^64`. -/
  value : Nat
  /-- The power of ten that scales them. -/
  exponent : Int
  /-- Whether a digit did not fit. -/
  full : Bool

/-- Take in a digit before the point. -/
def Significand.pushWhole (s : Significand) (c : Char) : Significand :=
  let grown := 10 * s.value + (c.toNat - '0'.toNat)
  if s.full || UInt64.size ≤ grown then ⟨s.value, s.exponent + 1, true⟩
  else ⟨grown, s.exponent, false⟩

/-- Take in a digit after the point. -/
def Significand.pushFraction (s : Significand) (c : Char) : Significand :=
  let grown := 10 * s.value + (c.toNat - '0'.toNat)
  if s.full || UInt64.size ≤ grown then ⟨s.value, s.exponent, true⟩
  else ⟨grown, s.exponent - 1, false⟩

/-- The number that the digits of a numeral form. -/
def significand (n : Numeral) : Significand :=
  let whole := n.whole.foldl Significand.pushWhole ⟨0, 0, false⟩
  n.fraction.foldl Significand.pushFraction ⟨whole.value, whole.exponent, false⟩

/-- The double nearest to a power of ten. -/
def powerOfTen (n : Nat) : Float :=
  Float.ofScientific 1 false n

/-- A double divided by a power of ten, in steps of at most `10^308`. -/
def scaleDown (x : Float) (n : Nat) : Float :=
  if n ≤ 308 then x / powerOfTen n
  else if x == 0.0 then x
  else scaleDown (x / powerOfTen 308) (n - 308)
termination_by n

/-- A double multiplied by a power of ten, if the product is finite. -/
def scaleUp? (x : Float) (n : Nat) : Option Float :=
  if n ≤ 308 then
    let product := x * powerOfTen n
    if product.isInf then none else some product
  else if x == 0.0 then some x
  else none

/-- A double scaled by a power of ten, if the result is finite. -/
def scale? (x : Float) (exponent : Int) : Option Float :=
  if 0 ≤ exponent then scaleUp? x exponent.toNat else some (scaleDown x exponent.natAbs)

/-- The exponent of a numeral as a number. -/
def exponentValue (n : Numeral) : Int :=
  match n.exponent with
  | none => 0
  | some (true, digits) => -(Number.digitsValue digits : Int)
  | some (false, digits) => Number.digitsValue digits

/-- The value as a double; numerals beyond the finite doubles have none. -/
def toFloat? (n : Numeral) : Option Float :=
  let s := n.significand
  let size := scale? (Float.ofNat s.value) (s.exponent + n.exponentValue)
  size.map fun x => if n.negative then -x else x

end Numeral

end Packrat.Outer.Interchange
