import Mathlib.Data.List.Infix
import Mathlib.Data.List.TakeWhile
import Packrat.Proofs.Text.Reading

/-!
# The extent of number literals

The scanner of number literals takes a sign, digits, a fraction and an exponent one after the other,
each as far as it goes, and a fraction or an exponent only if digits follow. What it takes is the
longest literal that the text begins with: digits that follow a part belong to it, so no part is
shorter than it could be.

* `IsInteger`, `IsNumber`, `IsLiteral`: the texts of number literals.
* `Longest`: the longest beginning of a text that is of some kind.
* `Literal.Formed`: a literal whose parts are what they should be.

Main statements: `Literal.scan_none_iff` and `Literal.scan_some`.
-/

namespace Packrat.Number

/-! ## Texts of literals -/

/-- Nothing or a sign. -/
def IsSign (s : List Char) : Prop := s = [] ∨ s = ['+'] ∨ s = ['-']

/-- One digit or more. -/
def IsDigits (s : List Char) : Prop := s ≠ [] ∧ ∀ c ∈ s, c.isDigit = true

/-- Digits with a sign or without one. -/
def IsInteger (s : List Char) : Prop :=
  ∃ sign digits, IsSign sign ∧ IsDigits digits ∧ s = sign ++ digits

/-- Nothing, or a point and digits. -/
def IsFraction (s : List Char) : Prop := s = [] ∨ ∃ digits, IsDigits digits ∧ s = '.' :: digits

/-- Nothing, or a letter and digits with a sign or without one. -/
def IsExponent (s : List Char) : Prop :=
  s = [] ∨ ∃ letter power, (letter = 'e' ∨ letter = 'E') ∧ IsInteger power ∧ s = letter :: power

/-- An integer with a fraction and an exponent, each of which may be missing. -/
def IsNumber (s : List Char) : Prop :=
  ∃ whole fraction exponent, IsInteger whole ∧ IsFraction fraction ∧ IsExponent exponent ∧
    s = whole ++ fraction ++ exponent

/-- The texts of number literals of a kind. -/
def IsLiteral : NumberKind → List Char → Prop
  | .integer => IsInteger
  | .float | .any => IsNumber

/-- The longest beginning of a text that has some property. -/
structure Longest (P : List Char → Prop) (text s : List Char) : Prop where
  isPrefix : s <+: text
  holds : P s
  longest : ∀ t, t <+: text → P t → t.length ≤ s.length

/-- Two longest beginnings are the same. -/
theorem Longest.unique {P : List Char → Prop} {text s t : List Char} (first : Longest P text s)
    (second : Longest P text t) : s = t := by
  have size : s.length = t.length :=
    Nat.le_antisymm (second.longest s first.isPrefix first.holds)
      (first.longest t second.isPrefix second.holds)
  exact (List.prefix_of_prefix_length_le first.isPrefix second.isPrefix
    (by omega)).eq_of_length size

/-! ## Characters -/

/-- No digit is a sign. -/
theorem ne_sign_of_isDigit {c : Char} (digit : c.isDigit = true) : c ≠ '+' ∧ c ≠ '-' := by
  constructor <;> rintro rfl <;> cases digit

/-- The letter of an exponent is no digit. -/
theorem isDigit_letter {letter : Char} (h : letter = 'e' ∨ letter = 'E') :
    letter.isDigit = false := by
  rcases h with rfl | rfl <;> rfl

/-- An integer consists of digits and signs. -/
theorem isDigit_or_sign_of_isInteger {s : List Char} (integer : IsInteger s) :
    ∀ c ∈ s, c.isDigit = true ∨ c = '+' ∨ c = '-' := by
  obtain ⟨sign, digits, isSign, ⟨-, all⟩, rfl⟩ := integer
  intro c member
  rcases List.mem_append.mp member with inSign | inDigits
  · rcases isSign with rfl | rfl | rfl <;> simp_all
  · exact .inl (all c inDigits)

namespace Literal

/-! ## Signs and digits -/

/-- The sign that is read is a sign. -/
theorem isSign_signAt (text : List Char) : IsSign (signAt text) := by
  unfold signAt
  split
  · split
    case isTrue sign =>
      simp only [Bool.or_eq_true, decide_eq_true_eq] at sign
      rcases sign with rfl | rfl <;> simp [IsSign]
    case isFalse => exact .inl rfl
  · exact .inl rfl

/-- A text is its sign and what is behind it. -/
theorem signAt_append_drop (text : List Char) :
    signAt text ++ text.drop (signAt text).length = text := by
  unfold signAt
  split
  · split <;> simp
  · simp

/-- A sign in front of digits is found. -/
theorem signAt_append {sign digits : List Char} (isSign : IsSign sign) (isDigits : IsDigits digits)
    (rest : List Char) : signAt (sign ++ (digits ++ rest)) = sign := by
  obtain ⟨some, all⟩ := isDigits
  obtain ⟨d, digits, rfl⟩ := List.exists_cons_of_ne_nil some
  obtain ⟨notPlus, notMinus⟩ := ne_sign_of_isDigit (all d List.mem_cons_self)
  rcases isSign with rfl | rfl | rfl <;> simp [signAt, notPlus, notMinus]

/-- All digits at the start are found. -/
theorem digitsAt_append {digits : List Char} (all : ∀ c ∈ digits, c.isDigit = true)
    (rest : List Char) : digitsAt (digits ++ rest) = digits ++ digitsAt rest :=
  List.takeWhile_append_of_pos all

/-- No digits are read where there is none. -/
theorem digitsAt_cons {c : Char} (other : c.isDigit = false) (rest : List Char) :
    digitsAt (c :: rest) = [] := by
  simp [digitsAt, other]

/-- The digits that are read are digits. -/
theorem isDigit_of_mem_digitsAt {text : List Char} :
    ∀ c ∈ digitsAt text, c.isDigit = true :=
  fun _ member => List.mem_takeWhile_imp member

/-- A text is its digits and what is behind them. -/
theorem digitsAt_append_drop (text : List Char) :
    digitsAt text ++ text.drop (digitsAt text).length = text :=
  (List.prefix_append_drop (List.takeWhile_prefix _)).symm

/-! ## The parts of a literal -/

/-- The sign and the digits at the start of a text. -/
def integerText (text : List Char) : List Char :=
  signAt text ++ digitsAt (text.drop (signAt text).length)

/-- The point and the digits of a fraction at the start of a text. -/
def fractionText (text : List Char) : List Char :=
  if (fractionAt text).isEmpty then [] else '.' :: fractionAt text

/-- The letter, the sign and the digits of an exponent at the start of a text. -/
def exponentText (text : List Char) : List Char :=
  (exponentAt text).1 ++ (exponentAt text).2

/-- What follows the sign and the digits at the start of a text. -/
def behindInteger (text : List Char) : List Char :=
  text.drop (integerText text).length

/-- What follows the fraction at the start of a text. -/
def behindFraction (text : List Char) : List Char :=
  text.drop (fractionText text).length

/-- The fraction and the exponent at the start of a text. -/
def scaleText (text : List Char) : List Char :=
  fractionText text ++ exponentText (behindFraction text)

/-- The number at the start of a text. -/
def numberText (text : List Char) : List Char :=
  integerText text ++ scaleText (behindInteger text)

/-- Behind an integer is what is behind its sign and its digits. -/
theorem behindInteger_eq (text : List Char) :
    behindInteger text = (text.drop (signAt text).length).drop
      (digitsAt (text.drop (signAt text).length)).length := by
  unfold behindInteger integerText
  rw [List.length_append, List.drop_drop]

/-- Behind a fraction is what is behind its point and its digits. -/
theorem behindFraction_eq (text : List Char) :
    behindFraction text = if (fractionAt text).isEmpty then text
      else text.drop ((fractionAt text).length + 1) := by
  unfold behindFraction fractionText
  split <;> simp

/-- A text is its integer and what is behind it. -/
theorem integerText_append_behind (text : List Char) :
    integerText text ++ behindInteger text = text := by
  rw [behindInteger_eq, integerText, List.append_assoc, digitsAt_append_drop, signAt_append_drop]

/-- A text is its fraction and what is behind it. -/
theorem fractionText_append_behind (text : List Char) :
    fractionText text ++ behindFraction text = text := by
  unfold behindFraction fractionText
  by_cases missing : (fractionAt text).isEmpty
  · simp [missing]
  · rw [if_neg missing]
    unfold fractionAt at missing ⊢
    split
    · simp [digitsAt_append_drop]
    · simp at missing

/-- A text begins with its exponent. -/
theorem exponentText_begins (text : List Char) : exponentText text <+: text := by
  unfold exponentText exponentAt
  split
  case h_1 c rest =>
    split
    · dsimp only
      split
      · simp
      · rw [List.cons_append]
        refine List.cons_prefix_cons.mpr ⟨rfl, ?_⟩
        exact ⟨_, integerText_append_behind rest⟩
    · simp
  case h_2 => simp

/-- A text begins with its integer. -/
theorem integerText_begins (text : List Char) : integerText text <+: text :=
  ⟨_, integerText_append_behind text⟩

/-- A text begins with its number. -/
theorem numberText_begins (text : List Char) : numberText text <+: text := by
  have scale : scaleText (behindInteger text) <+: behindInteger text := by
    conv => rhs; rw [← fractionText_append_behind (behindInteger text)]
    exact (List.prefix_append_right_inj _).mpr (exponentText_begins _)
  conv => rhs; rw [← integerText_append_behind text]
  exact (List.prefix_append_right_inj _).mpr scale

/-! ### What is found is a literal -/

/-- What is read as an integer is an integer, if there are digits. -/
theorem isInteger_integerText {text : List Char}
    (some : digitsAt (text.drop (signAt text).length) ≠ []) : IsInteger (integerText text) :=
  ⟨_, _, isSign_signAt text, ⟨some, isDigit_of_mem_digitsAt⟩, rfl⟩

/-- What is read as a fraction is a fraction or nothing. -/
theorem isFraction_fractionText (text : List Char) : IsFraction (fractionText text) := by
  unfold fractionText
  by_cases missing : (fractionAt text).isEmpty
  · exact .inl (if_pos missing)
  · rw [if_neg missing]
    refine .inr ⟨fractionAt text, ⟨by simpa using missing, ?_⟩, rfl⟩
    unfold fractionAt
    split
    · exact isDigit_of_mem_digitsAt
    · simp

/-- What is read as an exponent is an exponent or nothing. -/
theorem isExponent_exponentText (text : List Char) : IsExponent (exponentText text) := by
  unfold exponentText exponentAt
  split
  case h_1 c rest =>
    split
    case isTrue letter =>
      dsimp only
      split
      case isTrue => exact .inl rfl
      case isFalse some =>
        refine .inr ⟨c, integerText rest, by simpa using letter, ?_, rfl⟩
        exact isInteger_integerText (by simpa using some)
    case isFalse => exact .inl rfl
  case h_2 => exact .inl rfl

/-! ### Every literal is found -/

/-- Digits behind an integer belong to it. -/
theorem integerText_append {s : List Char} (integer : IsInteger s) (rest : List Char) :
    integerText (s ++ rest) = s ++ digitsAt rest := by
  obtain ⟨sign, digits, isSign, isDigits, rfl⟩ := integer
  unfold integerText
  rw [List.append_assoc, signAt_append isSign isDigits, List.drop_left,
    digitsAt_append isDigits.2, List.append_assoc]

/-- Behind the sign of an integer there are digits. -/
theorem digitsAt_of_isInteger {s : List Char} (integer : IsInteger s) (rest : List Char) :
    digitsAt ((s ++ rest).drop (signAt (s ++ rest)).length) ≠ [] := by
  obtain ⟨sign, digits, isSign, isDigits, rfl⟩ := integer
  rw [List.append_assoc, signAt_append isSign isDigits, List.drop_left,
    digitsAt_append isDigits.2]
  simp [isDigits.1]

/-- An integer is read to its end if no digit follows. -/
theorem behindInteger_append {s rest : List Char} (integer : IsInteger s)
    (ends : digitsAt rest = []) : behindInteger (s ++ rest) = rest := by
  unfold behindInteger
  rw [integerText_append integer, ends, List.append_nil, List.drop_left]

/-- Digits behind a fraction belong to it. -/
theorem fractionText_append {digits : List Char} (isDigits : IsDigits digits) (rest : List Char) :
    fractionText ('.' :: digits ++ rest) = '.' :: digits ++ digitsAt rest := by
  simp [fractionText, fractionAt, digitsAt_append isDigits.2, isDigits.1]

/-- No fraction begins with the letter of an exponent. -/
theorem fractionText_letter {letter : Char} (h : letter = 'e' ∨ letter = 'E')
    (rest : List Char) : fractionText (letter :: rest) = [] := by
  rcases h with rfl | rfl <;> rfl

/-- Digits behind an exponent belong to it. -/
theorem exponentText_append {letter : Char} {power : List Char}
    (h : letter = 'e' ∨ letter = 'E') (integer : IsInteger power) (rest : List Char) :
    exponentText (letter :: power ++ rest) = letter :: power ++ digitsAt rest := by
  have some := digitsAt_of_isInteger integer rest
  have found := integerText_append integer rest
  unfold integerText at found
  simp [exponentText, exponentAt, h, some, found]

/-- A fraction and an exponent at the start of a text are no longer than those that are found. -/
theorem length_le_scaleText {fraction exponent : List Char} (isFraction : IsFraction fraction)
    (isExponent : IsExponent exponent) (rest : List Char) :
    (fraction ++ exponent).length ≤ (scaleText (fraction ++ (exponent ++ rest))).length := by
  unfold scaleText
  rcases isExponent with rfl | ⟨letter, power, isLetter, isPower, rfl⟩
  · rcases isFraction with rfl | ⟨digits, isDigits, rfl⟩
    · simp
    · rw [List.nil_append, fractionText_append isDigits]
      simp
  · have found := exponentText_append isLetter isPower rest
    have behind : behindFraction (fraction ++ (letter :: power ++ rest)) = letter :: power ++ rest
        ∧ fractionText (fraction ++ (letter :: power ++ rest)) = fraction := by
      unfold behindFraction
      rcases isFraction with rfl | ⟨digits, isDigits, rfl⟩
      · simp [fractionText_letter isLetter]
      · have ends := digitsAt_cons (isDigit_letter isLetter) (power ++ rest)
        rw [fractionText_append isDigits, List.cons_append, List.cons_append, ends]
        simp
    rw [behind.1, behind.2, found]
    simp

/-- A number at the start of a text is no longer than the one that is found. -/
theorem length_le_numberText {s : List Char} (number : IsNumber s) (rest : List Char) :
    s.length ≤ (numberText (s ++ rest)).length := by
  obtain ⟨whole, fraction, exponent, integer, isFraction, isExponent, rfl⟩ := number
  have scale := length_le_scaleText isFraction isExponent rest
  have ends : fraction ++ exponent = [] ∨ digitsAt (fraction ++ (exponent ++ rest)) = [] := by
    rcases isFraction with rfl | ⟨digits, -, rfl⟩
    · rcases isExponent with rfl | ⟨letter, power, isLetter, -, rfl⟩
      · exact .inl rfl
      · exact .inr (digitsAt_cons (isDigit_letter isLetter) _)
    · exact .inr (digitsAt_cons rfl _)
  unfold numberText
  rw [List.append_assoc, List.append_assoc, List.append_assoc, integerText_append integer]
  rcases ends with none | ends
  · simp [none]
  · rw [behindInteger_append integer ends, ends]
    simpa using scale

/-- The integer that is found is the longest one, if there are digits. -/
theorem longest_integerText {text : List Char}
    (some : digitsAt (text.drop (signAt text).length) ≠ []) :
    Longest IsInteger text (integerText text) where
  isPrefix := integerText_begins text
  holds := isInteger_integerText some
  longest := by
    rintro s ⟨rest, rfl⟩ integer
    rw [integerText_append integer]
    simp

/-- The number that is found is the longest one, if there are digits. -/
theorem longest_numberText {text : List Char}
    (some : digitsAt (text.drop (signAt text).length) ≠ []) :
    Longest IsNumber text (numberText text) where
  isPrefix := numberText_begins text
  holds := ⟨_, _, _, isInteger_integerText some, isFraction_fractionText _,
    isExponent_exponentText _, (List.append_assoc ..).symm⟩
  longest := by
    rintro s ⟨rest, rfl⟩ number
    exact length_le_numberText number rest

/-! ## The scan -/

/-- A literal whose parts are signs and digits where they should be. -/
structure Formed (l : Literal) : Prop where
  sign : IsSign l.sign
  whole : IsDigits l.whole
  fraction : ∀ c ∈ l.fraction, c.isDigit = true
  exponent : (l.mark = [] ∧ l.exponent = []) ∨
    ∃ letter sign, (letter = 'e' ∨ letter = 'E') ∧ IsSign sign ∧ l.mark = letter :: sign ∧
      IsDigits l.exponent

/-- The exponent that is found has a letter and digits, or neither. -/
theorem exponentAt_formed (text : List Char) :
    ((exponentAt text).1 = [] ∧ (exponentAt text).2 = []) ∨
      ∃ letter sign, (letter = 'e' ∨ letter = 'E') ∧ IsSign sign ∧
        (exponentAt text).1 = letter :: sign ∧ IsDigits (exponentAt text).2 := by
  unfold exponentAt
  split
  case h_1 c rest =>
    split
    case isTrue letter =>
      dsimp only
      split
      case isTrue => exact .inl ⟨rfl, rfl⟩
      case isFalse some =>
        exact .inr ⟨c, signAt rest, by simpa using letter, isSign_signAt rest, rfl,
          by simpa using some, isDigit_of_mem_digitsAt⟩
    case isFalse => exact .inl ⟨rfl, rfl⟩
  case h_2 => exact .inl ⟨rfl, rfl⟩

/-- The digits of a fraction are digits. -/
theorem isDigit_of_mem_fractionAt {text : List Char} :
    ∀ c ∈ fractionAt text, c.isDigit = true := by
  unfold fractionAt
  split
  · exact isDigit_of_mem_digitsAt
  · simp

/-- No literal is found if the text does not begin with an integer. -/
theorem scan_none_iff {kind : NumberKind} {text : List Char} :
    scan kind text = none ↔ ∀ s, s <+: text → ¬IsInteger s := by
  constructor
  · intro nothing
    rintro s ⟨rest, rfl⟩ integer
    have some := digitsAt_of_isInteger integer rest
    unfold scan at nothing
    dsimp only at nothing
    rw [if_neg (by simpa using some)] at nothing
    split at nothing <;> cases nothing
  · intro nothing
    have none : digitsAt (text.drop (signAt text).length) = [] := by
      by_contra some
      exact nothing _ (integerText_begins text) (isInteger_integerText some)
    simp [scan, none]

/-- The literal that is found is the longest one of its kind, and its parts are what they should
be. -/
theorem scan_some {kind : NumberKind} {text : List Char} {l : Literal}
    (found : scan kind text = some l) :
    l.Formed ∧ Longest (IsLiteral kind) text l.chars ∧
      (kind = .integer → l.isFractional = false) := by
  unfold scan at found
  dsimp only at found
  split at found
  · cases found
  case isFalse some =>
    have some : digitsAt (text.drop (signAt text).length) ≠ [] := by simpa using some
    have whole : IsDigits (digitsAt (text.drop (signAt text).length)) :=
      ⟨some, isDigit_of_mem_digitsAt⟩
    split at found
    case isTrue integer =>
      subst integer
      cases found
      refine ⟨⟨isSign_signAt text, whole, by simp, .inl ⟨rfl, rfl⟩⟩, ?_, fun _ => rfl⟩
      simpa [chars, IsLiteral, integerText] using longest_integerText some
    case isFalse other =>
      have number : Longest (IsLiteral kind) text (numberText text) := by
        cases kind
        · exact absurd rfl other
        · exact longest_numberText some
        · exact longest_numberText some
      unfold numberText integerText scaleText fractionText exponentText at number
      rw [behindFraction_eq, behindInteger_eq] at number
      cases found
      refine ⟨⟨isSign_signAt text, whole, isDigit_of_mem_fractionAt, exponentAt_formed _⟩, ?_,
        fun integer => absurd integer other⟩
      simpa [chars] using number

end Literal

/-- Literals consist of the characters of literals. -/
theorem isLiteralChar_of_isNumber {s : List Char} (number : IsNumber s) :
    ∀ c ∈ s, isLiteralChar c = true := by
  have ofInteger : ∀ {t : List Char}, IsInteger t → ∀ c ∈ t, isLiteralChar c = true := by
    intro t integer c member
    rcases isDigit_or_sign_of_isInteger integer c member with digit | rfl | rfl <;>
      simp [isLiteralChar, *]
  obtain ⟨whole, fraction, exponent, integer, isFraction, isExponent, rfl⟩ := number
  intro c member
  simp only [List.mem_append] at member
  rcases member with (inWhole | inFraction) | inExponent
  · exact ofInteger integer c inWhole
  · rcases isFraction with rfl | ⟨digits, ⟨-, all⟩, rfl⟩
    · cases inFraction
    · rcases List.mem_cons.mp inFraction with rfl | inDigits
      · rfl
      · simp [isLiteralChar, all c inDigits]
  · rcases isExponent with rfl | ⟨letter, power, isLetter, isPower, rfl⟩
    · cases inExponent
    · rcases List.mem_cons.mp inExponent with rfl | inPower
      · rcases isLetter with rfl | rfl <;> rfl
      · exact ofInteger isPower c inPower

/-- An integer is a number without fraction and exponent. -/
theorem isNumber_of_isInteger {s : List Char} (integer : IsInteger s) : IsNumber s :=
  ⟨s, [], [], integer, .inl rfl, .inl rfl, by simp⟩

/-- A literal has literal characters only. -/
theorem isLiteralChar_of_isLiteral {kind : NumberKind} {s : List Char}
    (literal : IsLiteral kind s) : ∀ c ∈ s, isLiteralChar c = true := by
  cases kind with
  | integer => exact isLiteralChar_of_isNumber (isNumber_of_isInteger literal)
  | float | any => exact isLiteralChar_of_isNumber literal

/-- A literal of any kind begins with an integer. -/
theorem exists_integer_of_isLiteral {kind : NumberKind} {s : List Char}
    (literal : IsLiteral kind s) : ∃ whole, whole <+: s ∧ IsInteger whole := by
  cases kind with
  | integer => exact ⟨s, List.prefix_refl s, literal⟩
  | float | any =>
    obtain ⟨whole, fraction, exponent, integer, -, -, rfl⟩ := literal
    exact ⟨whole, by simp [List.append_assoc], integer⟩

end Packrat.Number
