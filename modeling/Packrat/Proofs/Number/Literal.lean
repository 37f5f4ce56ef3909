import Packrat.Proofs.Number.Extent

/-!
# What number literals denote

The value of a number literal is read off its text: the integer that sign and digits denote, or the
double that the text is read as. The scanner finds the longest literal with its value; it finds none
if there is no literal, or where an integer is asked for that does not fit a word.

* `integerValue`, `ValueOf`: the value of the text of a literal.

Main statements: `scanNumber_longest` and `scanNumber_takeWhile`.
-/

namespace Packrat.Number

/-! ## Values of texts -/

/-- The integer that digits with a sign or without one denote. -/
def integerValue : List Char → Int
  | '-' :: digits => -(Nat.ofDigitChars 10 digits 0 : Int)
  | '+' :: digits => Nat.ofDigitChars 10 digits 0
  | digits => Nat.ofDigitChars 10 digits 0

/-- The value of the text of a literal: an integer that fits a word where integers are asked for,
and also where any number is, if there is neither a fraction nor an exponent; otherwise the float
that is read from the text. -/
inductive ValueOf : NumberKind → List Char → Value → Prop where
  /-- An integer is asked for. -/
  | integer {s : List Char} (fits : Word.Fits (integerValue s)) :
    ValueOf .integer s (.int (integerValue s))
  /-- Any number is asked for, and it is an integer. -/
  | any {s : List Char} (whole : IsInteger s) (fits : Word.Fits (integerValue s)) :
    ValueOf .any s (.int (integerValue s))
  /-- Any number is asked for, and it is no integer, or one that is too great. -/
  | wide {s : List Char} {x : Float} (wide : IsInteger s → ¬Word.Fits (integerValue s))
      (read : readFloat? (String.ofList s) = some x) : ValueOf .any s (.float x)
  /-- A float is asked for. -/
  | float {s : List Char} {x : Float} (read : readFloat? (String.ofList s) = some x) :
    ValueOf .float s (.float x)

namespace Literal

/-! ### Integers -/

/-- The equation of the recursion. Unfolding the name alone keeps its arguments from being
evaluated. -/
theorem digitsValueFrom_cons (n : Nat) (c : Char) (digits : List Char) :
    digitsValueFrom n (c :: digits) =
      digitsValueFrom (10 * n + (c.toNat - '0'.toNat)) digits := by
  delta digitsValueFrom
  exact Eq.refl _

/-- The value of a row of digits is the one the core library computes. -/
theorem digitsValueFrom_eq (n : Nat) (digits : List Char) :
    digitsValueFrom n digits = Nat.ofDigitChars 10 digits n := by
  induction digits generalizing n with
  | nil => rfl
  | cons c digits ih =>
    rw [digitsValueFrom_cons, ih, Nat.ofDigitChars_cons]

/-- An integer has the value of its digits, with its sign. -/
theorem integerValue_append {sign digits : List Char} (isSign : IsSign sign)
    (isDigits : IsDigits digits) :
    integerValue (sign ++ digits) =
      if sign == ['-'] then -(digitsValue digits : Int) else digitsValue digits := by
  obtain ⟨some, all⟩ := isDigits
  obtain ⟨d, digits, rfl⟩ := List.exists_cons_of_ne_nil some
  obtain ⟨notPlus, notMinus⟩ := ne_sign_of_isDigit (all d List.mem_cons_self)
  unfold digitsValue
  rw [digitsValueFrom_eq]
  rcases isSign with rfl | rfl | rfl
  · simp [integerValue, notPlus, notMinus]
  · rfl
  · rfl

/-- A literal without a fraction is a sign and digits. -/
theorem Formed.chars_eq {l : Literal} (formed : l.Formed) (whole : l.isFractional = false) :
    l.chars = l.sign ++ l.whole := by
  obtain ⟨noFraction, noExponent⟩ : l.fraction = [] ∧ l.exponent = [] := by
    simpa [isFractional] using whole
  have noMark : l.mark = [] := by
    rcases formed.exponent with ⟨none, -⟩ | ⟨-, -, -, -, -, some, -⟩
    · exact none
    · exact absurd noExponent some
  simp [chars, noFraction, noExponent, noMark]

/-- The value of a whole literal is that of its characters. -/
theorem Formed.integerValue_chars {l : Literal} (formed : l.Formed)
    (whole : l.isFractional = false) : integerValue l.chars = l.toInt := by
  rw [formed.chars_eq whole, integerValue_append formed.sign formed.whole]
  rfl

/-- The text of a literal is an integer unless there is a fraction or an exponent. -/
theorem Formed.isInteger_chars_iff {l : Literal} (formed : l.Formed) :
    IsInteger l.chars ↔ l.isFractional = false := by
  constructor
  · intro integer
    have all := isDigit_or_sign_of_isInteger integer
    by_contra fractional
    rw [Bool.not_eq_false] at fractional
    by_cases none : l.fraction = []
    · have exponent : l.exponent ≠ [] := by simpa [isFractional, none] using fractional
      rcases formed.exponent with ⟨-, none⟩ | ⟨letter, sign, isLetter, -, mark, -⟩
      · exact exponent none
      · have member := all letter (by simp [chars, mark])
        rcases isLetter with rfl | rfl <;> simp [Char.isDigit] at member
    · have member := all '.' (by simp [chars, none])
      simp [Char.isDigit] at member
  · intro whole
    rw [formed.chars_eq whole]
    exact ⟨_, _, formed.sign, formed.whole, rfl⟩

/-! ### Reading a double -/

/-- Taking the sign off an integer leaves its digits and what follows. -/
theorem signOf_append {sign digits : List Char} (isSign : IsSign sign) (isDigits : IsDigits digits)
    (rest : List Char) :
    Decimal.signOf (sign ++ (digits ++ rest)) = (sign == ['-'], digits ++ rest) := by
  obtain ⟨some, all⟩ := isDigits
  obtain ⟨d, digits, rfl⟩ := List.exists_cons_of_ne_nil some
  obtain ⟨notPlus, notMinus⟩ := ne_sign_of_isDigit (all d List.mem_cons_self)
  rcases isSign with rfl | rfl | rfl
  · simp [Decimal.signOf, notPlus, notMinus]
  · rfl
  · rfl

/-- The exponent of a literal is read. -/
theorem Formed.exponentOf?_eq {l : Literal} (formed : l.Formed) :
    Decimal.exponentOf? (l.mark ++ l.exponent) = some l.power := by
  rcases formed.exponent with ⟨noMark, none⟩ | ⟨letter, sign, isLetter, isSign, mark, isDigits⟩
  · simp [noMark, none, Decimal.exponentOf?, power, digitsValue, digitsValueFrom_eq]
  · have read := signOf_append isSign isDigits []
    rw [List.append_nil] at read
    have minus : l.mark.contains '-' = (sign == ['-']) := by
      rw [mark]
      rcases isLetter with rfl | rfl <;> rcases isSign with rfl | rfl | rfl <;> rfl
    unfold power
    rw [minus, mark, List.cons_append, Decimal.exponentOf?, if_pos (by simpa using isLetter)]
    simp only [read]
    rw [if_neg (by simpa [isDigits.1] using isDigits.2)]

/-- The digits, the fraction and the exponent of a literal are read. -/
theorem Formed.unsignedOf?_eq {l : Literal} (formed : l.Formed) (negative : Bool) :
    Decimal.unsignedOf? negative (l.whole ++
      ((if l.fraction.isEmpty then [] else '.' :: l.fraction) ++ (l.mark ++ l.exponent))) =
      some (Decimal.ofParts negative l.whole l.fraction l.power) := by
  have read := formed.exponentOf?_eq
  have ends : l.mark ++ l.exponent = [] ∨ ∃ letter rest, (letter = 'e' ∨ letter = 'E') ∧
      l.mark ++ l.exponent = letter :: rest := by
    rcases formed.exponent with ⟨noMark, none⟩ | ⟨letter, sign, isLetter, -, mark, -⟩
    · exact .inl (by simp [noMark, none])
    · exact .inr ⟨letter, sign ++ l.exponent, isLetter, by simp [mark]⟩
  generalize l.mark ++ l.exponent = scale at read ends
  obtain ⟨some, all⟩ := formed.whole
  have stops : scale.takeWhile Char.isDigit = [] ∧ scale.dropWhile Char.isDigit = scale := by
    rcases ends with rfl | ⟨letter, rest, isLetter, rfl⟩
    · exact ⟨rfl, rfl⟩
    · simp [isDigit_letter isLetter]
  unfold Decimal.unsignedOf?
  dsimp only
  rw [List.takeWhile_append_of_pos all, List.dropWhile_append_of_pos all]
  by_cases none : l.fraction = []
  · simp only [none, List.isEmpty_nil, if_true, List.nil_append, stops]
    rcases ends with rfl | ⟨letter, rest, isLetter, rfl⟩
    · simp [some, read]
    · rcases isLetter with rfl | rfl <;> simp [some, read]
  · have fraction := formed.fraction
    simp [none, some, List.takeWhile_append_of_pos fraction,
      List.dropWhile_append_of_pos fraction, stops, read]

/-- A digit is its own lower case. -/
theorem toLower_of_isDigit {c : Char} (digit : c.isDigit = true) : c.toLower = c := by
  have low : c.val ≤ '9'.val := by
    simp only [Char.isDigit, Bool.and_eq_true, decide_eq_true_eq] at digit
    exact digit.2
  unfold Char.toLower
  rw [dif_neg]
  rintro ⟨high, -⟩
  exact absurd (UInt32.le_trans high low) (by decide)

/-- The text of a literal is read as the literal's double. -/
theorem Formed.readFloat?_chars {l : Literal} (formed : l.Formed) :
    readFloat? (String.ofList l.chars) = some l.toFloat := by
  have read := formed.unsignedOf?_eq l.isNegative
  have sign := signOf_append formed.sign formed.whole
    ((if l.fraction.isEmpty then [] else '.' :: l.fraction) ++ (l.mark ++ l.exponent))
  obtain ⟨some, all⟩ := formed.whole
  have text : l.chars = l.sign ++ (l.whole ++
      ((if l.fraction.isEmpty then [] else '.' :: l.fraction) ++ (l.mark ++ l.exponent))) := by
    simp [chars]
  rw [← text] at sign
  obtain ⟨d, more, whole⟩ := List.exists_cons_of_ne_nil some
  have digit := all d (by simp [whole])
  -- A text that begins with a digit is no word for infinity or not-a-number.
  have notWord : d ≠ 'i' ∧ d ≠ 'n' := by
    constructor <;> rintro rfl <;> cases digit
  unfold readFloat?
  rw [String.toList_ofList, sign]
  dsimp only
  change Decimal.unsignedOf? (l.sign == ['-']) _ = _ at read
  rw [read]
  simp [whole, toLower_of_isDigit digit, notWord, toFloat, isNegative]

/-- Where any number is asked for, an integer that fits a word is one. -/
theorem Formed.value?_any_integer {l : Literal} (formed : l.Formed) (integer : IsInteger l.chars)
    (fits : Word.Fits (integerValue l.chars)) :
    l.value? .any = some (.int (integerValue l.chars)) := by
  have whole := formed.isInteger_chars_iff.mp integer
  rw [formed.integerValue_chars whole] at fits ⊢
  simp [value?, whole, fits]

/-- Where any number is asked for, all else is a float. -/
theorem Formed.value?_any_float {l : Literal} (formed : l.Formed)
    (wide : IsInteger l.chars → ¬Word.Fits (integerValue l.chars)) :
    l.value? .any = some (.float l.toFloat) := by
  by_cases whole : l.isFractional = false
  · have great := wide (formed.isInteger_chars_iff.mpr whole)
    rw [formed.integerValue_chars whole] at great
    simp [value?, whole, great]
  · simp [value?, whole]

/-- The value of a literal is the value of its text. -/
theorem Formed.value?_iff {l : Literal} (formed : l.Formed) {kind : NumberKind}
    (whole : kind = .integer → l.isFractional = false) {v : Value} :
    l.value? kind = some v ↔ ValueOf kind l.chars v := by
  have read := formed.readFloat?_chars
  cases kind with
  | integer =>
    have value := formed.integerValue_chars (whole rfl)
    simp only [value?]
    constructor
    · intro found
      split at found
      case isTrue fits =>
        cases found
        rw [← value] at fits ⊢
        exact .integer fits
      case isFalse => cases found
    · rintro ⟨fits⟩
      rw [value] at fits ⊢
      exact if_pos fits
  | float =>
    constructor
    · intro found
      cases found
      exact .float read
    · rintro ⟨⟩
      simp_all [value?]
  | any =>
    by_cases small : IsInteger l.chars ∧ Word.Fits (integerValue l.chars)
    · obtain ⟨integer, fits⟩ := small
      rw [formed.value?_any_integer integer fits]
      constructor
      · intro found
        cases found
        exact .any integer fits
      · rintro ⟨⟩
        · rfl
        · simp_all
    · have wide : IsInteger l.chars → ¬Word.Fits (integerValue l.chars) :=
        fun integer fits => small ⟨integer, fits⟩
      rw [formed.value?_any_float wide]
      constructor
      · intro found
        cases found
        exact .wide wide read
      · rintro ⟨⟩
        · simp_all
        · simp_all

/-- A literal has no value only where an integer is asked for that does not fit a word. -/
theorem Formed.value?_none_iff {l : Literal} (formed : l.Formed) {kind : NumberKind}
    (whole : kind = .integer → l.isFractional = false) :
    l.value? kind = none ↔ kind = .integer ∧ ¬Word.Fits (integerValue l.chars) := by
  cases kind with
  | integer =>
    rw [formed.integerValue_chars (whole rfl)]
    simp [value?]
  | float => simp [value?]
  | any =>
    simp only [value?]
    split
    · simp
    · split <;> simp

end Literal

/-! ## The longest literal -/

/-- The scan takes the longest literal and its value. -/
theorem scanNumber_some_iff {kind : NumberKind} {text : List Char} {length : Nat} {v : Value} :
    scanNumber kind text = some (length, v) ↔
      ∃ s, Longest (IsLiteral kind) text s ∧ s.length = length ∧ ValueOf kind s v := by
  unfold scanNumber
  cases found : Literal.scan kind text with
  | none =>
    have nothing := Literal.scan_none_iff.mp found
    constructor
    · simp
    · rintro ⟨s, longest, -, -⟩
      obtain ⟨whole, before, integer⟩ := exists_integer_of_isLiteral longest.holds
      exact absurd integer (nothing whole (before.trans longest.isPrefix))
  | some l =>
    obtain ⟨formed, longest, whole⟩ := Literal.scan_some found
    simp only [Option.map_eq_some_iff, Prod.mk.injEq, formed.value?_iff whole]
    constructor
    · rintro ⟨v, value, rfl, rfl⟩
      exact ⟨l.chars, longest, rfl, value⟩
    · rintro ⟨s, other, rfl, value⟩
      obtain rfl := longest.unique other
      exact ⟨v, value, rfl, rfl⟩

/-- The scan finds nothing if the text does not begin with an integer, or where integers are asked
for and the longest one does not fit a word. -/
theorem scanNumber_none_iff {kind : NumberKind} {text : List Char} :
    scanNumber kind text = none ↔ (∀ s, s <+: text → ¬IsInteger s) ∨
      kind = .integer ∧ ∃ s, Longest IsInteger text s ∧ ¬Word.Fits (integerValue s) := by
  unfold scanNumber
  cases found : Literal.scan kind text with
  | none => simpa using .inl (Literal.scan_none_iff.mp found)
  | some l =>
    obtain ⟨formed, longest, whole⟩ := Literal.scan_some found
    have begins : ¬∀ s, s <+: text → ¬IsInteger s := by
      rw [← @Literal.scan_none_iff kind, found]
      simp
    simp only [Option.map_eq_none_iff, formed.value?_none_iff whole, begins, false_or]
    refine and_congr_right fun integer => ?_
    subst integer
    constructor
    · intro wide
      exact ⟨l.chars, longest, wide⟩
    · rintro ⟨s, other, wide⟩
      obtain rfl := longest.unique other
      exact wide

/-- The scan looks at no more than the characters of literals at the start of a text. -/
theorem scanNumber_takeWhile (kind : NumberKind) (text : List Char) :
    scanNumber kind (text.takeWhile isLiteralChar) = scanNumber kind text := by
  have begins : ∀ s, IsLiteral kind s → (s <+: text.takeWhile isLiteralChar ↔ s <+: text) := by
    intro s literal
    constructor
    · intro before
      exact before.trans (List.takeWhile_prefix _)
    · rintro ⟨rest, rfl⟩
      rw [List.takeWhile_append_of_pos (isLiteralChar_of_isLiteral literal)]
      exact List.prefix_append _ _
  have longest : ∀ s, Longest (IsLiteral kind) (text.takeWhile isLiteralChar) s ↔
      Longest (IsLiteral kind) text s := by
    intro s
    constructor
    · rintro ⟨before, literal, longest⟩
      exact ⟨(begins s literal).mp before, literal,
        fun t other isLiteral => longest t ((begins t isLiteral).mpr other) isLiteral⟩
    · rintro ⟨before, literal, longest⟩
      exact ⟨(begins s literal).mpr before, literal,
        fun t other isLiteral => longest t ((begins t isLiteral).mp other) isLiteral⟩
  refine Option.ext ?_
  rintro ⟨length, v⟩
  simp [scanNumber_some_iff, longest]

/-! ## Integers that are written out -/

/-- A number is printed as digits. -/
theorem isDigits_toDigits (n : Nat) : IsDigits (Nat.toDigits 10 n) :=
  ⟨Nat.toDigits_ne_nil, fun _ => Nat.isDigit_of_mem_toDigits (by simp) (by simp)⟩

/-- The text of an integer is a sign and digits. -/
theorem toString_eq (n : Int) : ∃ sign, IsSign sign ∧
    (toString n).toList = sign ++ Nat.toDigits 10 n.natAbs ∧ (sign = ['-'] ↔ n < 0) := by
  rw [Int.toString_eq_repr, Int.repr_eq_if]
  split
  case isTrue positive =>
    have size : n.toNat = n.natAbs := by omega
    refine ⟨[], .inl rfl, ?_, by simpa using positive⟩
    rw [Nat.repr_eq_ofList_toDigits, String.toList_ofList, size, List.nil_append]
  case isFalse negative =>
    have size : (-n).toNat = n.natAbs := by omega
    refine ⟨['-'], .inr (.inr rfl), ?_, by simpa using negative⟩
    simp [Nat.repr_eq_ofList_toDigits, size]

/-- An integer is printed as an integer literal. -/
theorem isInteger_toString (n : Int) : IsInteger (toString n).toList := by
  obtain ⟨sign, isSign, text, -⟩ := toString_eq n
  exact ⟨sign, _, isSign, isDigits_toDigits _, text⟩

/-- A printed integer has the value it was printed from. -/
theorem integerValue_toString (n : Int) : integerValue (toString n).toList = n := by
  obtain ⟨sign, isSign, text, minus⟩ := toString_eq n
  rw [text, Literal.integerValue_append isSign (isDigits_toDigits _), digitsValue,
    Literal.digitsValueFrom_eq, Nat.ofDigitChars_ten_toDigits]
  by_cases negative : n < 0
  · have isMinus : (sign == ['-']) = true := by simp [minus.mpr negative]
    rw [if_pos isMinus]
    omega
  · have noMinus : ¬(sign == ['-']) = true := by simpa [minus] using negative
    rw [if_neg noMinus]
    omega

/-- The scan of number literals takes the longest literal that the text begins with, its length
in bytes, and its value. It finds none if the text does not begin with an integer, or where
integers are asked for and the longest one does not fit a word. The text of every word is read as
that word if what follows does not extend it. -/
theorem scanNumber_longest (kind : NumberKind) (text : List Char) :
    (∀ length v, scanNumber kind text = some (length, v) ↔
      ∃ s, Longest (IsLiteral kind) text s ∧ Text.width s = length ∧ ValueOf kind s v) ∧
    (scanNumber kind text = none ↔ (∀ s, s <+: text → ¬IsInteger s) ∨
      kind = .integer ∧ ∃ s, Longest IsInteger text s ∧ ¬Word.Fits (integerValue s)) ∧
    (∀ n : Int, Word.Fits n → kind ≠ .float →
      Longest (IsLiteral kind) text (toString n).toList →
      scanNumber kind text = some ((toString n).utf8ByteSize, .int n)) := by
  refine ⟨fun length v => ?_, scanNumber_none_iff, fun n fits kinds longest => ?_⟩
  · rw [scanNumber_some_iff]
    constructor
    · rintro ⟨s, longest, size, value⟩
      refine ⟨s, longest, ?_, value⟩
      rw [width_of_isLiteralChar (isLiteralChar_of_isLiteral longest.holds), size]
    · rintro ⟨s, longest, size, value⟩
      refine ⟨s, longest, ?_, value⟩
      rw [← width_of_isLiteralChar (isLiteralChar_of_isLiteral longest.holds), size]
  · have value := integerValue_toString n
    have bytes := Text.utf8ByteSize_eq (toString n)
    rw [width_of_isLiteralChar (isLiteralChar_of_isLiteral longest.holds)] at bytes
    have fits : Word.Fits (integerValue (toString n).toList) := by rwa [value]
    refine scanNumber_some_iff.mpr ⟨_, longest, bytes.symm, ?_⟩
    conv => rhs; rw [← value]
    cases kind with
    | integer => exact .integer fits
    | any => exact .any (isInteger_toString n) fits
    | float => exact absurd rfl kinds

/-- The text of the least word is read as that word if a point without digits follows. -/
theorem scanNumber_least :
    (Word.Fits Word.least ∧ NumberKind.any ≠ .float ∧
      Longest IsNumber "-9223372036854775808.x".toList (toString Word.least).toList) ∧
    scanNumber .any "-9223372036854775808.x".toList = some (20, .int Word.least) := by
  have fits : Word.Fits Word.least := by decide
  have found : Literal.numberText "-9223372036854775808.x".toList =
      (toString Word.least).toList := by decide
  have longest : Longest IsNumber "-9223372036854775808.x".toList (toString Word.least).toList := by
    rw [← found]
    exact Literal.longest_numberText (by decide)
  exact ⟨⟨fits, nofun, longest⟩, (scanNumber_longest .any _).2.2 _ fits nofun longest⟩

end Packrat.Number
