import Packrat.Proofs.Text.Boundary

/-!
# Texts that begin alike

Where two texts have their first characters in common, they look the same from every place before
the end of the common part.

* `Alike`: characters, boundaries and slices of two texts are the same up to a place.

Main statement: `Alike.of_slice`.
-/

namespace Packrat.Text

/-- Up to a place, and at it, the other text has the same characters, boundaries and slices. -/
structure Alike (text text' : String) (reach : Nat) : Prop where
  char : ∀ pos ≤ reach, charAt? text' pos = charAt? text pos
  boundary : ∀ pos ≤ reach, isBoundary text' pos = isBoundary text pos
  slice : ∀ start, ∀ stop ≤ reach, slice? text' start stop = slice? text start stop

variable {text text' : String} {shared rest rest' : List Char} {start stop pos reach : Nat}

/-- A text is alike itself up to every place. -/
theorem Alike.refl (text : String) (reach : Nat) : Alike text text reach :=
  ⟨fun _ _ => rfl, fun _ _ => rfl, fun _ _ _ => rfl⟩

/-- The first character after some bytes is in the first part if there are more bytes in it. -/
theorem head?_dropBytes_append (inside : pos < width shared) :
    (dropBytes pos (shared ++ rest)).head? = (dropBytes pos shared).head? := by
  induction shared generalizing pos with
  | nil => exact absurd inside (Nat.not_lt_zero _)
  | cons c shared ih =>
    cases pos with
    | zero => rfl
    | succ pos =>
      rw [List.cons_append, dropBytes, dropBytes]
      split
      case isTrue fits =>
        refine ih ?_
        rw [width_cons] at inside
        omega
      case isFalse => rfl

/-- The boundaries up to the end of a first part are those between its characters. -/
theorem isBoundary_first (chars : text.toList = shared ++ rest) (inside : pos ≤ width shared) :
    isBoundary text pos = true ↔ ∃ before after, shared = before ++ after ∧ pos = width before := by
  rw [isBoundary_iff]
  constructor
  · rintro ⟨before, after, split⟩
    rcases List.append_eq_append_iff.mp (split.chars.symm.trans chars) with
      ⟨more, ahead, _⟩ | ⟨more, ahead, _⟩
    · exact ⟨before, more, ahead, split.bytes⟩
    · -- The boundary is not behind the first part, so there is nothing between the two.
      have bytes := split.bytes
      rw [ahead, width_append] at bytes
      have short := length_le_width more
      have none : more = [] := List.length_eq_zero_iff.mp (by omega)
      subst none
      rw [List.append_nil] at ahead
      exact ⟨shared, [], (List.append_nil shared).symm, ahead ▸ split.bytes⟩
  · rintro ⟨before, after, rfl, bytes⟩
    exact ⟨before, after ++ rest, by rw [chars, List.append_assoc], bytes⟩

/-- The slices up to the end of a first part are those of its characters. -/
theorem slice?_first (chars : text.toList = shared ++ rest)
    (chars' : text'.toList = shared ++ rest') (inside : stop ≤ width shared) :
    slice? text' start stop = slice? text start stop := by
  by_cases le : start ≤ stop
  · have first := isBoundary_first chars (Nat.le_trans le inside)
    have first' := isBoundary_first chars' (Nat.le_trans le inside)
    have last := isBoundary_first chars inside
    have last' := isBoundary_first chars' inside
    by_cases ends : isBoundary text stop = true
    · by_cases starts : isBoundary text start = true
      · obtain ⟨upTo, after, rfl, rfl⟩ := last.mp ends
        rw [List.append_assoc] at chars chars'
        obtain ⟨before, part, rfl, rfl⟩ := (isBoundary_first chars le).mp starts
        rw [List.append_assoc] at chars chars'
        rw [width_append]
        exact (slice?_split (⟨chars', rfl⟩ : Split text' _ before _)).trans
          (slice?_split (⟨chars, rfl⟩ : Split text _ before _)).symm
      · have starts' : ¬ isBoundary text' start = true := mt (first.mpr ∘ first'.mp) starts
        simp [slice?, starts, starts']
    · have ends' : ¬ isBoundary text' stop = true := mt (last.mpr ∘ last'.mp) ends
      simp [slice?, ends, ends']
  · simp [slice?, le]

/-- Texts with a common first part look the same from every place in it. -/
theorem Alike.of_shared (chars : text.toList = shared ++ rest)
    (chars' : text'.toList = shared ++ rest') (inside : reach < width shared) :
    Alike text text' reach where
  char pos le := by
    have before := Nat.lt_of_le_of_lt le inside
    rw [charAt?_eq_head?, charAt?_eq_head?, following, following, chars, chars',
      head?_dropBytes_append before, head?_dropBytes_append before]
  boundary pos le := by
    have before := Nat.le_of_lt (Nat.lt_of_le_of_lt le inside)
    rw [Bool.eq_iff_iff, isBoundary_first chars before, isBoundary_first chars' before]
  slice start stop le := slice?_first chars chars' (Nat.le_of_lt (Nat.lt_of_le_of_lt le inside))

/-- Texts that are the same up to and including a character look the same up to it. -/
theorem Alike.of_slice {c : Char} (here : charAt? text reach = some c)
    (same : slice? text' 0 (reach + c.utf8Size) = slice? text 0 (reach + c.utf8Size)) :
    Alike text text' reach := by
  obtain ⟨before, after, split⟩ := split_of_charAt? here
  have positive := c.utf8Size_pos
  have chars : text.toList = (before ++ [c]) ++ after := by
    rw [split.chars, List.append_assoc]
    rfl
  have size : reach + c.utf8Size = width (before ++ [c]) := by
    rw [split.bytes, width_append, width_cons, width_nil, Nat.add_zero]
  have whole : slice? text 0 (reach + c.utf8Size) = some (String.ofList (before ++ [c])) := by
    have first : Split text 0 [] ((before ++ [c]) ++ after) := ⟨chars, rfl⟩
    rw [size, ← Nat.zero_add (width _)]
    exact slice?_split first
  rw [whole] at same
  -- The other text has a slice of the same characters at its beginning.
  have ends : isBoundary text' (reach + c.utf8Size) = true := by
    by_contra none
    simp [slice?, none] at same
  obtain ⟨upTo, rest, split'⟩ := isBoundary_iff.mp ends
  have first' : Split text' 0 [] (upTo ++ rest) := ⟨split'.chars, rfl⟩
  have whole' := slice?_split first'
  rw [Nat.zero_add, ← split'.bytes, same] at whole'
  have upTo_eq : before ++ [c] = upTo := String.ofList_injective (Option.some.inj whole')
  have chars' : text'.toList = (before ++ [c]) ++ rest := by
    rw [upTo_eq]
    exact split'.chars
  exact .of_shared chars chars' (by omega)

/-- Passing over characters leads to the same place, if that is not behind the common part. -/
theorem Alike.skip (alike : Alike text text' reach) {count : Nat}
    (le : skip text pos count ≤ reach) : skip text' pos count = skip text pos count := by
  induction count generalizing pos with
  | zero => rfl
  | succ count ih =>
    have within := (within_skip text pos (count + 1)).le
    rw [Text.skip] at le ⊢
    rw [Text.skip, alike.char pos (Nat.le_trans within (by rw [Text.skip]; exact le))]
    cases found : charAt? text pos with
    | none => rfl
    | some c =>
      rw [found] at le
      exact ih le

end Packrat.Text
