/-!
# Words

The integers that a signed 64-bit word can hold.

* `Word.Fits`: whether an integer is one of them.
* `Word.wrap`: an integer modulo the word size, as addition leaves it.
* `Word.clamp`: a number as a word, the greatest word for one that is too great.
-/

namespace Packrat.Word

/-- The least integer that a word can hold. -/
def least : Int := -0x8000000000000000

/-- The greatest integer that a word can hold. -/
def greatest : Int := 0x7fffffffffffffff

/-- Whether a word can hold an integer. -/
def Fits (n : Int) : Prop := least ≤ n ∧ n ≤ greatest

instance (n : Int) : Decidable (Fits n) :=
  inferInstanceAs (Decidable (least ≤ n ∧ n ≤ greatest))

/-- The word that equals an integer modulo `2^64`. -/
def wrap (n : Int) : Int := Int.bmod n UInt64.size

/-- A natural number as a word; the greatest word if it is too great. -/
def clamp (n : Nat) : Int := min (n : Int) greatest

/-- An integer that fits a word stays as it is. -/
theorem wrap_of_fits {n : Int} (h : Fits n) : wrap n = n := by
  obtain ⟨lower, upper⟩ := h
  simp only [least, greatest] at lower upper
  simp only [wrap, UInt64.size]
  exact Int.bmod_eq_of_le (by omega) (by omega)

end Packrat.Word
