/-!
# Shortest decimal digits

The decimal number with the fewest digits that reads back as a given double. A finite double
`m · 2^q` is the nearest double to every real of an interval around it; the ends belong to the
interval exactly when `m` is even. On the grid of `n`-digit decimals only the two neighbours of
the double can be the nearest grid points, so the search asks for `n = 1, 2, …` whether one of
them lies in the interval.

* `Binary.ofFloat`: the double as `m · 2^q`.
* `Binary.digits`: its shortest digits and the place of the decimal point.
-/

namespace Packrat.Number

/-! ## Doubles as binary fractions -/

/-- The absolute value `mantissa · 2^exponent` of a finite double. -/
structure Binary where
  /-- The integer mantissa. -/
  mantissa : Nat
  /-- The power of two that scales it. -/
  exponent : Int
  /-- Whether the next smaller double is only half as far away as the next larger one. -/
  atBinade : Bool
  deriving Repr, DecidableEq

/-- The absolute value of a double, read off its bits; infinities and not-a-numbers have none. -/
def Binary.ofFloat (x : Float) : Option Binary :=
  let bits := x.toBits.toNat
  let biased : Nat := bits / 0x10000000000000 % 0x800
  let fraction : Nat := bits % 0x10000000000000
  if biased = 2047 then none
  else if biased = 0 then some ⟨fraction, -1074, false⟩
  else some ⟨0x10000000000000 + fraction, (biased : Int) - 1075, fraction == 0 && biased != 1⟩

/-! ## Comparison with decimals -/

/-- Which of two equally near decimals is taken. -/
inductive Tie where
  /-- The one farther from zero. -/
  | away
  /-- The one whose last digit is even. -/
  | even
  deriving Repr, DecidableEq

/-- The digits `coefficient` with the decimal point after the first `point` of them: the value is
`0.coefficient · 10^point`. -/
structure Digits where
  /-- The digits, read as a number; the last is not zero unless it is the only one. -/
  coefficient : Nat
  /-- How many of the digits stand before the point. -/
  point : Int
  deriving Repr, DecidableEq

namespace Binary

/-- The weights `(p, w)` such that `d · 10^g` compares with `x · 2^(exponent - 2)` as `d · p`
compares with `x · w`. -/
def weights (b : Binary) (g : Int) : Nat × Nat :=
  (Nat.pow 10 g.toNat * Nat.pow 2 (2 - b.exponent).toNat,
    Nat.pow 10 (-g).toNat * Nat.pow 2 (b.exponent - 2).toNat)

/-- Whether the value is at least `10^k`. -/
def reaches (b : Binary) (k : Int) : Bool :=
  let (p, w) := b.weights k
  p ≤ 4 * b.mantissa * w

/-- The place of the decimal point: the least `k` with the value below `10^k`. The logarithm of
two is estimated from below, so at most two steps up remain. -/
def point (b : Binary) : Int :=
  let k := (b.mantissa.log2 + b.exponent) * 30103 / 100000
  if b.reaches k then if b.reaches (k + 1) then k + 2 else k + 1 else k

/-- Whether `d · 10^g` lies in the interval of reals whose nearest double is this one, in the
weights of `g`. -/
def admits (b : Binary) (p w d : Nat) : Bool :=
  let low := (4 * b.mantissa - if b.atBinade then 1 else 2) * w
  let high := (4 * b.mantissa + 2) * w
  if b.mantissa % 2 = 0 then low ≤ d * p && d * p ≤ high else low < d * p && d * p < high

/-- The `n`-digit decimal nearest to the value among those that read back as it. -/
def onGrid (b : Binary) (tie : Tie) (k : Int) (n : Nat) : Option Nat :=
  let (p, w) := b.weights (k - n)
  let value := 4 * b.mantissa * w
  let below := value / p
  let above := below + 1
  match b.admits p w below, b.admits p w above with
  | false, false => none
  | true, false => some below
  | false, true => some above
  | true, true =>
    let toBelow := value - below * p
    let toAbove := above * p - value
    if toBelow < toAbove then some below
    else if toAbove < toBelow then some above
    else match tie with
      | .away => some above
      | .even => some (if below % 2 = 0 then below else above)

/-- The first grid of `n`, `n + 1`, … digits on which a decimal reads back as the value, together
with its number of digits. -/
def search (b : Binary) (tie : Tie) (k : Int) : (grids n : Nat) → Nat × Nat
  | 0, n => ((b.onGrid tie k n).getD 0, n)
  | grids + 1, n =>
    match b.onGrid tie k n with
    | some d => (d, n)
    | none => search b tie k grids (n + 1)

/-- The shortest digits of a value that is not zero. -/
def digits (b : Binary) (tie : Tie) : Digits :=
  let k := b.point
  let (d, n) := b.search tie k 16 1
  if d = Nat.pow 10 n then ⟨1, k + 1⟩ else ⟨d, k⟩

end Binary

end Packrat.Number
