import Packrat.Number.Literal
import Packrat.Proofs.Text.Boundary
import Packrat.Regex

/-!
# Ends of tokens

Regular expressions and number literals end behind characters that follow the place where they
start.

Main statements: `Regex.within_of_matchAt` and `Number.within_of_scanNumber`.
-/

namespace Packrat

open Text

/-! ## Regular expressions -/

namespace Regex

/-- A match that starts at a place is one at the start of the characters that follow. -/
theorem matchAt_eq_some {r : Regex} {text : String} {pos stop : Nat} :
    r.matchAt text pos = some stop ↔
      ∃ length, r.find (String.ofList (following text pos)) = some ⟨0, length⟩ ∧
        stop = pos + length := by
  rw [matchAt, remainder_eq]
  rcases r.find (String.ofList (following text pos)) with _ | ⟨start, length⟩
  · simp
  · by_cases here : start = 0 <;> simp [here, eq_comm]

/-- A match ends at the place where it starts or behind a character. -/
theorem within_of_matchAt {r : Regex} {text : String} {pos stop : Nat}
    (h : r.matchAt text pos = some stop) : Within text pos stop := by
  obtain ⟨length, found, rfl⟩ := matchAt_eq_some.mp h
  obtain ⟨passed, rest, s⟩ := isBoundary_iff.mp (r.find_isBoundary _ _ found)
  have chars := s.chars
  rw [String.toList_ofList] at chars
  have ended : length = width passed := s.bytes
  rw [ended]
  exact .of_following chars

end Regex

/-! ## Number literals -/

namespace Number

/-- A class of characters that take one byte each. -/
theorem width_of_isLiteralChar {chars : List Char} (h : ∀ c ∈ chars, isLiteralChar c = true) :
    width chars = chars.length := by
  induction chars with
  | nil => rfl
  | cons c chars ih =>
    have one : c.utf8Size = 1 := by
      have literal := h c (List.mem_cons_self ..)
      simp only [isLiteralChar, Char.isDigit, Bool.or_eq_true, Bool.and_eq_true,
        decide_eq_true_eq] at literal
      rw [Char.utf8Size_eq_one_iff]
      rcases literal with (((((⟨_, high⟩ | rfl) | rfl) | rfl) | rfl) | rfl)
      · exact Nat.le_trans high (by decide)
      all_goals decide
    rw [width_cons, one, ih (fun d member => h d (List.mem_cons_of_mem _ member)),
      List.length_cons, Nat.add_comm]

namespace Literal

/-- A sign is no longer than its text. -/
theorem length_signAt_le (text : List Char) : (signAt text).length ≤ text.length := by
  unfold signAt
  split
  · split <;> simp
  · simp

/-- The digits are no longer than their text. -/
theorem length_digitsAt_le (text : List Char) : (digitsAt text).length ≤ text.length :=
  (List.takeWhile_sublist _).length_le

/-- A fraction that is there has a point in front. -/
theorem length_fractionAt_lt {text : List Char} (h : fractionAt text ≠ []) :
    (fractionAt text).length + 1 ≤ text.length := by
  unfold fractionAt at h ⊢
  split
  · have := length_digitsAt_le ‹List Char›
    rw [List.length_cons]
    omega
  · simp_all

/-- An exponent is no longer than its text. -/
theorem length_exponentAt_le (text : List Char) :
    (exponentAt text).1.length + (exponentAt text).2.length ≤ text.length := by
  unfold exponentAt
  split
  · rename_i c rest
    split
    · dsimp only
      split
      · simp
      · have sign := length_signAt_le rest
        have digits := length_digitsAt_le (rest.drop (signAt rest).length)
        rw [List.length_drop] at digits
        simp only [List.length_cons]
        omega
    · simp
  · simp

/-- A literal is no longer than the text it starts. -/
theorem length_chars_le {kind : NumberKind} {text : List Char} {l : Literal}
    (h : scan kind text = some l) : l.chars.length ≤ text.length := by
  unfold scan at h
  dsimp only at h
  have sign := length_signAt_le text
  generalize signAt text = s at h sign
  have whole := length_digitsAt_le (text.drop s.length)
  generalize digitsAt (text.drop s.length) = w at h whole
  rw [List.length_drop] at whole
  split at h
  · cases h
  · split at h
    · cases h
      simp only [chars, List.length_append, List.isEmpty_nil, if_true, List.length_nil]
      omega
    · cases h
      generalize rest : (text.drop s.length).drop w.length = behind
      have size : behind.length = text.length - s.length - w.length := by
        rw [← rest, List.length_drop, List.length_drop]
      cases fraction : fractionAt behind with
      | nil =>
        have exponent := length_exponentAt_le behind
        simp only [chars, List.isEmpty_nil, if_true, List.length_append, List.length_nil]
        omega
      | cons d more =>
        have some : fractionAt behind ≠ [] := by rw [fraction]; simp
        have point := length_fractionAt_lt some
        rw [fraction] at point
        have exponent := length_exponentAt_le (behind.drop ((d :: more).length + 1))
        rw [List.length_drop] at exponent
        simp only [chars, List.isEmpty_cons, List.length_append, List.length_cons, if_false,
          Bool.false_eq_true] at exponent point ⊢
        omega

end Literal

/-- A number literal ends behind a character. -/
theorem within_of_scanNumber {kind : NumberKind} {text : String} {start length : Nat} {v : Value}
    (h : scanNumber kind ((following text start).takeWhile isLiteralChar) = some (length, v)) :
    Within text start (start + length) := by
  generalize run : (following text start).takeWhile isLiteralChar = chars at h
  have short : length ≤ chars.length := by
    unfold scanNumber at h
    split at h
    · cases h
    · rename_i l found
      rw [Option.map_eq_some_iff] at h
      obtain ⟨_, _, same⟩ := h
      cases same
      exact Literal.length_chars_le found
  have narrow : width (chars.take length) = length := by
    rw [width_of_isLiteralChar, List.length_take, Nat.min_eq_left short]
    intro c member
    rw [← run] at member
    have all : ((following text start).takeWhile isLiteralChar).all isLiteralChar = true :=
      List.all_takeWhile
    exact List.all_eq_true.mp all c (List.mem_of_mem_take member)
  have follows : following text start = chars.take length ++
      (chars.drop length ++ (following text start).dropWhile isLiteralChar) := by
    rw [← List.append_assoc, List.take_append_drop, ← run, List.takeWhile_append_dropWhile]
  have within := Within.of_following follows
  rwa [narrow] at within

/-- Where an integer is asked for, one is read. -/
theorem exists_of_scanNumber_integer {text : List Char} {length : Nat} {v : Value}
    (h : scanNumber .integer text = some (length, v)) : ∃ n, v = .int n := by
  unfold scanNumber at h
  split at h
  · cases h
  · rw [Option.map_eq_some_iff] at h
    obtain ⟨w, value, same⟩ := h
    cases same
    unfold Literal.value? at value
    dsimp only at value
    split at value
    · cases value
      exact ⟨_, rfl⟩
    · cases value

end Number

end Packrat
