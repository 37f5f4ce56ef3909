import Mathlib.Data.String.Basic
import Packrat.Text.Cursor

/-!
# Boundaries of a text

What the functions on byte offsets do to the list of characters of a text. A boundary splits the
characters into those before it and those after it; the byte offset is the width of the former.

* `width`: how many bytes a list of characters takes.
* `Split`: a boundary with the characters on its two sides.
* `following`: the characters after a byte offset, none where it is no boundary.
* `Within`: a given place, or a boundary after it.

Main statements: `charAt?_eq_head?`, `runAt_eq_takeWhile`, `slice?_split`, `skipExactly?_eq` read
the functions of `Packrat.Text` off the characters that follow; `Within.of_following` says that
passing over characters leads to a boundary.
-/

namespace Packrat.Text

/-! ## Widths -/

/-- How many bytes a list of characters takes. -/
def width : List Char → Nat
  | [] => 0
  | c :: rest => c.utf8Size + width rest

/-- No characters take no bytes. -/
@[simp] theorem width_nil : width [] = 0 := rfl

/-- A character and the rest take the bytes of both. -/
@[simp] theorem width_cons (c : Char) (rest : List Char) :
    width (c :: rest) = c.utf8Size + width rest := rfl

/-- Two rows of characters take the bytes of both. -/
@[simp] theorem width_append (l r : List Char) : width (l ++ r) = width l + width r := by
  induction l with
  | nil => simp
  | cons c l ih => simp [ih, Nat.add_assoc]

/-- Every character takes a byte at least. -/
theorem length_le_width (l : List Char) : l.length ≤ width l := by
  induction l with
  | nil => simp
  | cons c l ih =>
    have positive := c.utf8Size_pos
    simp only [List.length_cons, width_cons]
    omega

/-- The width of a list is the size of the text made of it. -/
theorem utf8ByteSize_ofList (l : List Char) : (String.ofList l).utf8ByteSize = width l := by
  induction l with
  | nil => simp
  | cons c l ih =>
    rw [String.ofList_cons, String.utf8ByteSize_append, ih]
    simp

/-- The size of a text is the width of its characters. -/
theorem utf8ByteSize_eq (text : String) : text.utf8ByteSize = width text.toList := by
  rw [← utf8ByteSize_ofList, String.ofList_toList]

/-! ## Characters at byte offsets -/

/-- The scan for the character at an offset passes over the characters before it. -/
theorem getAux_append (before after : List Char) (i : Nat) :
    String.Pos.Raw.utf8GetAux? (before ++ after) ⟨i⟩ ⟨i + width before⟩ = after.head? := by
  induction before generalizing i with
  | nil => cases after <;> simp [String.Pos.Raw.utf8GetAux?]
  | cons c before ih =>
    have positive := c.utf8Size_pos
    have differs : (⟨i⟩ : String.Pos.Raw) ≠ ⟨i + width (c :: before)⟩ := by
      simp only [ne_eq, String.Pos.Raw.mk.injEq, width_cons]
      omega
    simp only [List.cons_append, String.Pos.Raw.utf8GetAux?, if_neg differs]
    have later := ih (i + c.utf8Size)
    rw [width_cons, ← Nat.add_assoc]
    exact later

/-- A character that the scan finds splits the list at its offset. -/
theorem exists_of_getAux {chars : List Char} {i pos : Nat} {c : Char}
    (h : String.Pos.Raw.utf8GetAux? chars ⟨i⟩ ⟨pos⟩ = some c) :
    ∃ before after, chars = before ++ c :: after ∧ pos = i + width before := by
  induction chars generalizing i with
  | nil => simp [String.Pos.Raw.utf8GetAux?] at h
  | cons d chars ih =>
    rw [String.Pos.Raw.utf8GetAux?] at h
    split at h
    case isTrue same =>
      simp only [String.Pos.Raw.mk.injEq] at same
      exact ⟨[], chars, by simp_all, by simp [same]⟩
    case isFalse =>
      obtain ⟨before, after, rfl, rfl⟩ := ih (i := i + d.utf8Size) h
      exact ⟨d :: before, after, rfl, by simp [Nat.add_assoc]⟩

/-! ## Splits -/

/-- `before` and `after` are the characters of a text on the two sides of byte offset `pos`. -/
structure Split (text : String) (pos : Nat) (before after : List Char) : Prop where
  /-- Together they are the text. -/
  chars : text.toList = before ++ after
  /-- The offset is the width of the characters before it. -/
  bytes : pos = width before

/-- A boundary is an offset that splits the text. -/
theorem isBoundary_iff {text : String} {pos : Nat} :
    isBoundary text pos = true ↔ ∃ before after, Split text pos before after := by
  rw [isBoundary, String.Pos.Raw.isValid_eq_true_iff,
    String.Pos.Raw.isValid_iff_exists_take_toList]
  constructor
  · rintro ⟨i, h⟩
    rw [utf8ByteSize_ofList] at h
    exact ⟨text.toList.take i, text.toList.drop i, by simp, h⟩
  · rintro ⟨before, after, chars, bytes⟩
    refine ⟨before.length, ?_⟩
    rw [utf8ByteSize_ofList, chars, List.take_left, bytes]

namespace Split

variable {text : String} {pos : Nat} {before after : List Char}

/-- A split is at a boundary. -/
theorem isBoundary (s : Split text pos before after) : Text.isBoundary text pos = true :=
  isBoundary_iff.mpr ⟨before, after, s⟩

/-- The bytes on the two sides add up to those of the text. -/
theorem size (s : Split text pos before after) : text.utf8ByteSize = pos + width after := by
  rw [utf8ByteSize_eq, s.chars, width_append, s.bytes]

/-- The character at a boundary is the first one after it. -/
theorem charAt? (s : Split text pos before after) : Text.charAt? text pos = after.head? := by
  have found := getAux_append before after 0
  rw [Nat.zero_add, ← s.bytes] at found
  rw [Text.charAt?, String.Pos.Raw.get?, s.chars]
  exact found

/-- Passing over some characters leads to a split again. -/
theorem advance {passed rest : List Char} (s : Split text pos before (passed ++ rest)) :
    Split text (pos + width passed) (before ++ passed) rest :=
  ⟨by rw [s.chars, List.append_assoc], by rw [width_append, s.bytes]⟩

/-- Passing over one character leads to a split again. -/
theorem next {c : Char} {rest : List Char} (s : Split text pos before (c :: rest)) :
    Split text (pos + c.utf8Size) (before ++ [c]) rest := by
  have one : Split text pos before ([c] ++ rest) := s
  exact one.advance

end Split

/-- A character stands at a boundary. -/
theorem split_of_charAt? {text : String} {pos : Nat} {c : Char}
    (h : charAt? text pos = some c) : ∃ before after, Split text pos before (c :: after) := by
  obtain ⟨before, after, chars, bytes⟩ := exists_of_getAux h
  exact ⟨before, after, chars, by simpa using bytes⟩

/-- A boundary does not come after the end. -/
theorem le_size_of_isBoundary {text : String} {pos : Nat} (h : isBoundary text pos = true) :
    pos ≤ text.utf8ByteSize := by
  obtain ⟨before, after, s⟩ := isBoundary_iff.mp h
  have := s.size
  omega

/-- A character stands at every boundary before the end. -/
theorem exists_charAt? {text : String} {pos : Nat} (h : isBoundary text pos = true)
    (inside : pos < text.utf8ByteSize) : ∃ c, charAt? text pos = some c := by
  obtain ⟨before, after, s⟩ := isBoundary_iff.mp h
  cases after with
  | nil =>
    have := s.size
    simp only [width_nil] at this
    omega
  | cons c after => exact ⟨c, s.charAt?⟩

/-! ## What follows an offset -/

/-- A list of characters without its first `bytes` bytes; nothing if a character lies across. -/
def dropBytes : (bytes : Nat) → List Char → List Char
  | 0, chars => chars
  | _ + 1, [] => []
  | bytes + 1, c :: rest =>
    if c.utf8Size ≤ bytes + 1 then dropBytes (bytes + 1 - c.utf8Size) rest else []
termination_by structural _ chars => chars

/-- The characters after byte offset `pos`; none where it is no boundary. -/
def following (text : String) (pos : Nat) : List Char :=
  dropBytes pos text.toList

/-- Dropping as many bytes as a first part has leaves the second one. -/
theorem dropBytes_append (before after : List Char) :
    dropBytes (width before) (before ++ after) = after := by
  induction before with
  | nil => cases after <;> simp [dropBytes]
  | cons c before ih =>
    have positive := c.utf8Size_pos
    obtain ⟨bytes, h⟩ : ∃ bytes, width (c :: before) = bytes + 1 :=
      ⟨width (c :: before) - 1, by rw [width_cons]; omega⟩
    have rest : bytes + 1 - c.utf8Size = width before := by
      rw [← h, width_cons]
      omega
    rw [h, List.cons_append, dropBytes, if_pos (by rw [← h, width_cons]; omega), rest, ih]

/-- What is left after dropping bytes begins where the dropped characters end. -/
theorem exists_of_dropBytes {bytes : Nat} {chars : List Char} (h : dropBytes bytes chars ≠ []) :
    ∃ before, chars = before ++ dropBytes bytes chars ∧ bytes = width before := by
  induction chars generalizing bytes with
  | nil => cases bytes <;> simp [dropBytes] at h
  | cons c chars ih =>
    cases bytes with
    | zero => exact ⟨[], by simp [dropBytes]⟩
    | succ bytes =>
      rw [dropBytes] at h ⊢
      split at h
      case isTrue fits =>
        rw [if_pos fits]
        obtain ⟨before, split, size⟩ := ih h
        exact ⟨c :: before, by rw [List.cons_append, ← split], by rw [width_cons]; omega⟩
      case isFalse => simp at h

/-- What follows a boundary are the characters after it. -/
theorem Split.following {text : String} {pos : Nat} {before after : List Char}
    (s : Split text pos before after) : Text.following text pos = after := by
  rw [Text.following, s.chars, s.bytes, dropBytes_append]

/-- A boundary splits the text in front of what follows it. -/
theorem split_following {text : String} {pos : Nat} (h : isBoundary text pos = true) :
    ∃ before, Split text pos before (following text pos) := by
  obtain ⟨before, after, s⟩ := isBoundary_iff.mp h
  exact ⟨before, by rw [s.following]; exact s⟩

/-- The character at an offset is the first one that follows it. -/
theorem charAt?_eq_head? (text : String) (pos : Nat) :
    charAt? text pos = (following text pos).head? := by
  cases found : charAt? text pos with
  | some c =>
    obtain ⟨before, after, s⟩ := split_of_charAt? found
    rw [s.following, List.head?_cons]
  | none =>
    cases rest : following text pos with
    | nil => rfl
    | cons c after =>
      have some : dropBytes pos text.toList ≠ [] := by
        rw [← Text.following, rest]
        simp
      obtain ⟨before, chars, bytes⟩ := exists_of_dropBytes some
      have s : Split text pos before (c :: after) := ⟨by rw [← rest]; exact chars, bytes⟩
      rw [s.charAt?] at found
      simp at found

/-- After a character follows what followed it. -/
theorem following_next {text : String} {pos : Nat} {c : Char} {rest : List Char}
    (h : following text pos = c :: rest) : following text (pos + c.utf8Size) = rest := by
  have found : charAt? text pos = some c := by rw [charAt?_eq_head?, h, List.head?_cons]
  obtain ⟨before, after, s⟩ := split_of_charAt? found
  rw [s.following] at h
  cases h
  exact s.next.following

/-- Nothing follows a place that is no boundary. -/
theorem following_eq_nil {text : String} {pos : Nat} (h : isBoundary text pos = false) :
    following text pos = [] := by
  cases rest : following text pos with
  | nil => rfl
  | cons c after =>
    have found : charAt? text pos = some c := by rw [charAt?_eq_head?, rest, List.head?_cons]
    obtain ⟨_, _, s⟩ := split_of_charAt? found
    rw [s.isBoundary] at h
    cases h

/-! ## Places further on -/

/-- `stop` is `start` itself or a boundary of the text after it. -/
structure Within (text : String) (start stop : Nat) : Prop where
  /-- It does not come before. -/
  le : start ≤ stop
  /-- A place further on is a boundary. -/
  moved : start = stop ∨ Text.isBoundary text stop = true

namespace Within

variable {text : String} {start mid stop : Nat}

/-- Going nowhere keeps within the text. -/
theorem refl : Within text start start := ⟨Nat.le_refl _, .inl rfl⟩

/-- Going further on twice is going further on. -/
theorem trans (a : Within text start mid) (b : Within text mid stop) : Within text start stop := by
  refine ⟨Nat.le_trans a.le b.le, ?_⟩
  rcases b.moved with rfl | boundary
  · exact a.moved
  · exact .inr boundary

/-- From a boundary one comes to a boundary. -/
theorem isBoundary (w : Within text start stop) (h : Text.isBoundary text start = true) :
    Text.isBoundary text stop = true := by
  rcases w.moved with rfl | boundary
  · exact h
  · exact boundary

/-- A place further on does not come after the end. -/
theorem le_size (w : Within text start stop) (h : start ≤ text.utf8ByteSize) :
    stop ≤ text.utf8ByteSize := by
  rcases w.moved with rfl | boundary
  · exact h
  · exact le_size_of_isBoundary boundary

/-- Behind a character there is a boundary. -/
theorem of_charAt? {c : Char} (h : charAt? text start = some c) :
    Within text start (start + c.utf8Size) := by
  obtain ⟨before, after, s⟩ := split_of_charAt? h
  exact ⟨Nat.le_add_right _ _, .inr s.next.isBoundary⟩

/-- Behind some of the characters that follow there is a boundary. -/
theorem of_following {passed rest : List Char} (h : following text start = passed ++ rest) :
    Within text start (start + width passed) := by
  induction passed generalizing start with
  | nil => exact refl
  | cons c passed ih =>
    have here : charAt? text start = some c := by rw [charAt?_eq_head?, h]; rfl
    have later := ih (following_next h)
    rw [width_cons, ← Nat.add_assoc]
    exact (of_charAt? here).trans later

end Within

/-! ## Reading on -/

/-- Passing over one character. -/
theorem skip_one (text : String) (pos : Nat) :
    skip text pos 1 = match charAt? text pos with
      | some c => pos + c.utf8Size
      | none => pos := by
  cases h : charAt? text pos <;> simp [skip, h]

/-- Passing over characters ends at the place where it starts or behind a character. -/
theorem within_skip (text : String) (pos count : Nat) : Within text pos (skip text pos count) := by
  induction count generalizing pos with
  | zero => exact .refl
  | succ count ih =>
    rw [skip]
    cases here : charAt? text pos with
    | none => exact .refl
    | some c => exact (Within.of_charAt? here).trans (ih (pos + c.utf8Size))

/-- As many characters are passed over as asked for, if that many follow. -/
theorem skipExactly?_eq (text : String) (pos count : Nat) :
    skipExactly? text pos count =
      if count ≤ (following text pos).length then
        some (pos + width ((following text pos).take count))
      else none := by
  induction count generalizing pos with
  | zero => simp [skipExactly?]
  | succ count ih =>
    rw [skipExactly?, charAt?_eq_head?]
    cases h : following text pos with
    | nil => simp
    | cons c rest =>
      simp only [List.head?_cons, List.length_cons, List.take_succ_cons, width_cons]
      rw [ih, following_next h]
      simp only [Nat.add_le_add_iff_right, Nat.add_assoc]

/-- So does passing over exactly as many characters as asked for. -/
theorem within_of_skipExactly? {text : String} {pos count stop : Nat}
    (passed : skipExactly? text pos count = some stop) : Within text pos stop := by
  rw [skipExactly?_eq] at passed
  split at passed
  · cases passed
    exact .of_following (List.take_append_drop count (following text pos)).symm
  · cases passed

/-- The loop of `runAt` gathers the longest run of what follows, if there are bytes enough. -/
theorem runFrom_eq (p : Char → Bool) (text : String) {bytes : Nat} {found : List Char} {pos : Nat}
    (enough : (following text pos).length ≤ bytes) :
    runFrom p text bytes found pos = found.reverse ++ (following text pos).takeWhile p := by
  induction bytes generalizing found pos with
  | zero =>
    have empty : following text pos = [] := List.length_eq_zero_iff.mp (by omega)
    simp [runFrom, empty]
  | succ bytes ih =>
    rw [runFrom, charAt?_eq_head?]
    cases h : following text pos with
    | nil => simp
    | cons c rest =>
      have next := following_next h
      have enough' : (following text (pos + c.utf8Size)).length ≤ bytes := by
        rw [next]
        rw [h, List.length_cons] at enough
        omega
      simp only [List.head?_cons, List.takeWhile_cons]
      split
      · rw [ih enough', next]
        simp
      · simp

/-- No more characters follow an offset than there are bytes after it. -/
theorem length_following_le (text : String) (pos : Nat) :
    (following text pos).length ≤ text.utf8ByteSize - pos := by
  cases h : following text pos with
  | nil => exact Nat.zero_le _
  | cons c rest =>
    have found : charAt? text pos = some c := by rw [charAt?_eq_head?, h]; rfl
    obtain ⟨before, after, s⟩ := split_of_charAt? found
    have size := s.size
    have short := length_le_width (c :: after)
    rw [s.following] at h
    cases h
    omega

/-- The characters of a class that follow an offset. -/
theorem runAt_eq_takeWhile (p : Char → Bool) (text : String) (pos : Nat) :
    runAt p text pos = (following text pos).takeWhile p := by
  rw [runAt, runFrom_eq p text (length_following_le text pos)]
  simp

/-! ## Slices -/

/-- The text between two places; empty where one of them is no boundary. -/
def between (text : String) (start stop : Nat) : String :=
  (slice? text start stop).getD ""

/-- Cutting after a first part yields it. -/
theorem cut_append (part rest : List Char) (i : Nat) :
    String.Pos.Raw.extract.go₂ (part ++ rest) ⟨i⟩ ⟨i + width part⟩ = part := by
  induction part generalizing i with
  | nil => cases rest <;> simp [String.Pos.Raw.extract.go₂]
  | cons c part ih =>
    have positive := c.utf8Size_pos
    have differs : (⟨i⟩ : String.Pos.Raw) ≠ ⟨i + width (c :: part)⟩ := by
      simp only [ne_eq, String.Pos.Raw.mk.injEq, width_cons]
      omega
    rw [List.cons_append, String.Pos.Raw.extract.go₂, if_neg differs, width_cons, ← Nat.add_assoc]
    exact congrArg (c :: ·) (ih (i + c.utf8Size))

/-- The characters before a cut are passed over. -/
theorem extract_append (before after : List Char) (i stop : Nat) :
    String.Pos.Raw.extract.go₁ (before ++ after) ⟨i⟩ ⟨i + width before⟩ ⟨stop⟩ =
      String.Pos.Raw.extract.go₂ after ⟨i + width before⟩ ⟨stop⟩ := by
  induction before generalizing i with
  | nil => cases after <;> simp [String.Pos.Raw.extract.go₁, String.Pos.Raw.extract.go₂]
  | cons c before ih =>
    have positive := c.utf8Size_pos
    have differs : (⟨i⟩ : String.Pos.Raw) ≠ ⟨i + width (c :: before)⟩ := by
      simp only [ne_eq, String.Pos.Raw.mk.injEq, width_cons]
      omega
    rw [List.cons_append, String.Pos.Raw.extract.go₁, if_neg differs, width_cons, ← Nat.add_assoc]
    exact ih (i + c.utf8Size)

/-- The slice over some characters is the text of those characters. -/
theorem slice?_split {text : String} {start : Nat} {before part rest : List Char}
    (s : Split text start before (part ++ rest)) :
    slice? text start (start + width part) = some (String.ofList part) := by
  rw [slice?, if_pos (by simp [s.isBoundary, s.advance.isBoundary]), String.Pos.Raw.extract]
  split
  case isTrue short =>
    have empty : part = [] := by
      have short : start + width part ≤ start := short
      have := length_le_width part
      exact List.length_eq_zero_iff.mp (by omega)
    simp [empty]
  case isFalse =>
    have passed := extract_append before (part ++ rest) 0 (start + width part)
    rw [Nat.zero_add, ← s.bytes] at passed
    rw [s.chars]
    exact congrArg (fun l => some (String.ofList l)) (passed.trans (cut_append part rest start))

/-- The text over some of the characters that follow is the text of those characters. -/
theorem between_eq {text : String} {pos : Nat} {passed rest : List Char}
    (h : following text pos = passed ++ rest) :
    between text pos (pos + width passed) = String.ofList passed := by
  rw [between]
  cases boundary : isBoundary text pos with
  | true =>
    obtain ⟨before, s⟩ := split_following boundary
    rw [h] at s
    rw [slice?_split s, Option.getD_some]
  | false =>
    rw [following_eq_nil boundary] at h
    have nothing : passed = [] := (List.append_eq_nil_iff.mp h.symm).1
    rw [nothing, width_nil, Nat.add_zero, slice?, boundary]
    simp

/-- The text from a place on is that of the characters that follow. -/
theorem remainder_eq (text : String) (pos : Nat) :
    remainder text pos = String.ofList (following text pos) := by
  rw [remainder]
  cases boundary : isBoundary text pos with
  | true =>
    obtain ⟨before, s⟩ := split_following boundary
    rw [s.size]
    have whole : Split text pos before (following text pos ++ []) := by rwa [List.append_nil]
    rw [slice?_split whole, Option.getD_some]
  | false =>
    rw [following_eq_nil boundary, slice?, boundary]
    simp

/-- A boundary further on ends a first part of what follows. -/
theorem Within.split {text : String} {start stop : Nat} (h : Text.isBoundary text start = true)
    (w : Within text start stop) :
    ∃ part rest, following text start = part ++ rest ∧ stop = start + width part := by
  obtain ⟨before, s⟩ := split_following h
  obtain ⟨upTo, rest, t⟩ := isBoundary_iff.mp (w.isBoundary h)
  have same : before ++ following text start = upTo ++ rest := s.chars.symm.trans t.chars
  rcases List.append_eq_append_iff.mp same with ⟨part, ahead, behind⟩ | ⟨back, ahead, behind⟩
  · exact ⟨part, rest, behind, by rw [t.bytes, s.bytes, ahead, width_append]⟩
  · have le := w.le
    rw [s.bytes, t.bytes, ahead, width_append] at le
    have none : back = [] := by
      have := length_le_width back
      exact List.length_eq_zero_iff.mp (by omega)
    subst none
    exact ⟨[], following text start, rfl, by rw [s.bytes, t.bytes, ahead]; simp⟩

/-- There is a slice between two boundaries in order. -/
theorem Within.exists_slice {text : String} {start stop : Nat}
    (h : Text.isBoundary text start = true) (w : Within text start stop) :
    ∃ slice, slice? text start stop = some slice := by
  obtain ⟨part, rest, follows, rfl⟩ := w.split h
  obtain ⟨before, s⟩ := split_following h
  rw [follows] at s
  exact ⟨_, slice?_split s⟩

end Packrat.Text
