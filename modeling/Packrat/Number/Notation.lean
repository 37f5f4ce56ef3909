import Packrat.Number.Shortest

/-!
# Written forms of doubles

A `Layout` says which of two equally short decimals is taken and which magnitudes are written
with all their places; the others are written with an exponent. Every written number has at least
one digit after the point unless it has an exponent.

* `Layout.write`: the written form of a finite double.
* `Layout.display`: the layout of values as they are shown.
* `Layout.interchange`: the layout of values in their JSON text form.
* `showFloat`: any double as it is shown.
-/

namespace Packrat.Number

/-- How finite doubles are written. -/
structure Layout where
  /-- Which of two equally near shortest decimals is taken. -/
  tie : Tie
  /-- The least place of the decimal point that is written without an exponent. -/
  leastPoint : Int
  /-- The greatest place of the decimal point that is written without an exponent. -/
  greatestPoint : Int
  deriving Repr, DecidableEq

namespace Layout

/-- Values from `0.0001` up to `10^16` are shown with all their places; of two equally near
shortest decimals the farther from zero is taken. -/
def display : Layout := ⟨.away, -3, 16⟩

/-- JSON texts hold values from `0.00001` up to `10^16` with all their places; of two equally near
shortest decimals the even one is taken. -/
def interchange : Layout := ⟨.even, -4, 16⟩

end Layout

/-- Digits written with all their places. -/
def Digits.positional (d : Digits) : String :=
  let digits := toString d.coefficient
  let n := digits.length
  if d.point ≤ 0 then
    "0." ++ String.ofList (List.replicate (-d.point).toNat '0') ++ digits
  else
    let whole := d.point.toNat
    if n ≤ whole then digits ++ String.ofList (List.replicate (whole - n) '0') ++ ".0"
    else String.ofList (digits.toList.take whole) ++ "."
      ++ String.ofList (digits.toList.drop whole)

/-- Digits written with one digit before the point and an exponent of ten. -/
def Digits.scientific (d : Digits) : String :=
  let exponent := "e" ++ toString (d.point - 1)
  match (toString d.coefficient).toList with
  | [] => exponent
  | [c] => String.ofList [c] ++ exponent
  | c :: rest => String.ofList (c :: '.' :: rest) ++ exponent

namespace Layout

/-- The written form of an absolute value. -/
def writeBinary (layout : Layout) (b : Binary) : String :=
  if b.mantissa = 0 then "0.0"
  else
    let d := b.digits layout.tie
    if layout.leastPoint ≤ d.point && d.point ≤ layout.greatestPoint then d.positional
    else d.scientific

/-- The written form of a finite double; other doubles have none. -/
def write (layout : Layout) (x : Float) : Option String :=
  (Binary.ofFloat x).map (fun b =>
    (if x.toBits.toNat ≥ 0x8000000000000000 then "-" else "") ++ layout.writeBinary b)

end Layout

/-- Any double as it is shown. -/
def showFloat (x : Float) : String :=
  match Layout.display.write x with
  | some text => text
  | none => if x.isNaN then "NaN" else if x < 0 then "-inf" else "inf"

end Packrat.Number
