import LoginGate.Environment.Scalar
import LoginGate.Proofs.Decimal.Canonical
import LoginGate.Proofs.Decimal.Numeral

/-!
Contract: which texts are still the same after they were taken for a value and written again.

Owns:
- the texts that are taken for a truth value or an integer;
- the law that says which texts keep their spelling.

Does not own: which settings are written again (`Settings`).

A text that looks like neither a truth value nor a number is kept. A number is kept only if it is
already in the form in which it would be written.
-/

namespace LoginGate.Environment

open Decimal (IsSign IsPlain)
open Decimal.Extended (IsNumeral IsMagnitude cutSign)
open Text (IsDigits IsWhole)

def IsTruthWord (text : Text) : Prop :=
  Unicode.toLower text = "true".toList ∨ Unicode.toLower text = "false".toList

/-- An integer without anything that could be left out. -/
def IsPlainInteger (text : Text) : Prop :=
  IsWhole text ∨ ∃ digits, text = '-' :: digits ∧ IsWhole digits ∧ digits ≠ ['0']

/-! ## Integers -/

private theorem isPlainInteger_ofInt (n : Int) : IsPlainInteger (Text.ofInt n) := by
  cases n with
  | ofNat n => exact .inl (Text.isWhole_ofNat n)
  | negSucc n =>
    refine .inr ⟨Text.ofNat (n + 1), rfl, Text.isWhole_ofNat (n + 1), ?_⟩
    intro zero
    have positive := Text.eq_zero_of_head?_ofNat (congrArg List.head? zero)
    omega

private theorem ofInt_neg {n : Nat} (positive : 0 < n) :
    Text.ofInt (-(n : Int)) = '-' :: Text.ofNat n := by
  obtain ⟨m, rfl⟩ := Nat.exists_eq_succ_of_ne_zero (Nat.pos_iff_ne_zero.1 positive)
  rfl

def signedValue (sign digits : Text) : Int :=
  if sign = ['-'] then -(Nat.ofDigitChars 10 digits 0 : Int) else Nat.ofDigitChars 10 digits 0

namespace Scalar

private theorem integer?_append {sign digits : Text} (isSign : IsSign sign)
    (allDigits : IsDigits digits) :
    integer? (sign ++ digits) =
      if Word.minSigned64 ≤ signedValue sign digits ∧
        signedValue sign digits ≤ Word.maxSigned64 then some (signedValue sign digits)
      else none := by
  have magnitude := Text.toNat?_ten_eq_some_iff.2 ⟨allDigits, rfl⟩
  have bare := Decimal.Extended.unsigned_of_isDigits allDigits
  unfold integer?
  rw [Decimal.Extended.cutSign_append isSign bare]
  dsimp only
  rw [magnitude]
  simp only [Option.bind_eq_bind, Option.bind_some, decide_eq_true_eq]
  rfl

private theorem eq_signedValue_of_integer? {sign digits : Text} {n : Int} (isSign : IsSign sign)
    (allDigits : IsDigits digits) (isRead : integer? (sign ++ digits) = some n) :
    n = signedValue sign digits := by
  rw [integer?_append isSign allDigits] at isRead
  split at isRead
  · exact (Option.some.inj isRead).symm
  · cases isRead

private theorem exists_digits_of_integer? {text : Text} {n : Int}
    (isRead : integer? text = some n) :
    ∃ sign digits, IsSign sign ∧ IsDigits digits ∧ text = sign ++ digits := by
  obtain ⟨sign, isSign, shape, -⟩ := Decimal.Extended.exists_cutSign text
  obtain ⟨magnitude, found, -⟩ := Option.bind_eq_some_iff.1 isRead
  exact ⟨sign, (cutSign text).2, isSign, (Text.toNat?_ten_eq_some_iff.1 found).1, shape⟩

/-- An integer that was read is written back only to its plain form. -/
theorem ofInt_eq_iff {text : Text} {n : Int} (isRead : integer? text = some n) :
    Text.ofInt n = text ↔ IsPlainInteger text := by
  constructor
  · rintro rfl
    exact isPlainInteger_ofInt n
  · rintro (whole | ⟨digits, rfl, whole, notZero⟩)
    · have value : n = signedValue [] text :=
        eq_signedValue_of_integer? (.inl rfl) whole.1 isRead
      rw [value]
      exact Text.ofNat_ofDigitChars whole
    · have value : n = signedValue ['-'] digits :=
        eq_signedValue_of_integer? (.inr (.inr rfl)) whole.1 isRead
      have written := Text.ofNat_ofDigitChars whole
      have positive : 0 < Nat.ofDigitChars 10 digits 0 := by
        rw [Nat.pos_iff_ne_zero]
        intro zero
        rw [zero] at written
        exact notZero written.symm
      rw [value, signedValue, if_pos rfl, ofInt_neg positive, written]

private theorem isNumeral_of_integer? {text : Text} {n : Int} (isRead : integer? text = some n) :
    IsNumeral text := by
  obtain ⟨sign, digits, isSign, allDigits, rfl⟩ := exists_digits_of_integer? isRead
  refine ⟨sign, digits, isSign, rfl, .inr ⟨digits, [], [], ?_, ?_, .inl rfl, .inr ⟨rfl, ?_⟩⟩⟩
  · simpa using allDigits.2
  · simpa using allDigits.1
  · exact (List.append_nil _).symm

private theorem isPlain_ofInt (n : Int) : IsPlain (Text.ofInt n) := by
  cases n with
  | ofNat n => exact ⟨[], Text.ofNat n, .inl rfl, Text.isWhole_ofNat n, .inl rfl⟩
  | negSucc n => exact ⟨['-'], _, .inr rfl, Text.isWhole_ofNat (n + 1), .inl rfl⟩

/-! ## Values -/

private theorem toText_ofText_of_isTruthWord {text : Text} (word : IsTruthWord text) :
    (ofText text).toText = Unicode.toLower text := by
  unfold ofText
  dsimp only
  split
  · rename_i truth
    exact truth.symm
  · rename_i notTrue
    have untruth := word.resolve_left notTrue
    rw [if_pos untruth]
    exact untruth.symm

private theorem ofText_of_not_isTruthWord {text : Text} (other : ¬ IsTruthWord text) :
    ofText text =
      match integer? text with
      | some value => .integer value
      | none =>
        match Decimal.Extended.read? text with
        | some value => .float value
        | none => .text text := by
  obtain ⟨notTrue, notFalse⟩ := not_or.1 other
  exact (if_neg notTrue).trans (if_neg notFalse)

private theorem toText_ofText_of_integer {text : Text} (other : ¬ IsTruthWord text) {n : Int}
    (isRead : integer? text = some n) : (ofText text).toText = Text.ofInt n := by
  rw [ofText_of_not_isTruthWord other, isRead]
  rfl

private theorem toText_ofText_of_float {text : Text} (other : ¬ IsTruthWord text)
    (notInteger : integer? text = none) {x : Decimal.Extended}
    (isRead : Decimal.Extended.read? text = some x) : (ofText text).toText = x.text := by
  rw [ofText_of_not_isTruthWord other, notInteger, isRead]
  rfl

/-- What looks like neither a truth value nor a number is a text. -/
theorem ofText_of_not_isNumeral {text : Text} (other : ¬ IsTruthWord text)
    (notNumeral : ¬ IsNumeral text) : ofText text = .text text := by
  have notInteger : integer? text = none := by
    rw [Option.eq_none_iff_forall_ne_some]
    exact fun n isRead => notNumeral (isNumeral_of_integer? isRead)
  have notRead : Decimal.Extended.read? text = none := by
    rw [← Option.not_isSome_iff_eq_none, Decimal.Extended.read?_isSome_iff]
    exact notNumeral
  rw [ofText_of_not_isTruthWord other, notInteger, notRead]

end Scalar

/-! ## Spelling -/

/-- A text that is the same again after it was taken for a value and written. -/
inductive KeepsSpelling (text : Text) : Prop where
  /-- A word for a truth value, in lower case. -/
  | word (isWord : IsTruthWord text) (lower : Unicode.toLower text = text)
  /-- An integer of 64 bits in its plain form. -/
  | integer (other : ¬ IsTruthWord text) {n : Int} (isRead : Scalar.integer? text = some n)
    (plain : IsPlainInteger text)
  /-- Another number, written as the floating-point number that it is read as. -/
  | float (other : ¬ IsTruthWord text) (notInteger : Scalar.integer? text = none)
    {x : Decimal.Extended} (isRead : Decimal.Extended.read? text = some x)
    (shortest : x.text = text)
  /-- Anything else. -/
  | text (other : ¬ IsTruthWord text) (notNumeral : ¬ IsNumeral text)

theorem toText_ofText_eq_iff {text : Text} :
    (Scalar.ofText text).toText = text ↔ KeepsSpelling text := by
  constructor
  · intro same
    by_cases isWord : IsTruthWord text
    · rw [Scalar.toText_ofText_of_isTruthWord isWord] at same
      exact .word isWord same
    cases isInteger : Scalar.integer? text with
    | some n =>
      rw [Scalar.toText_ofText_of_integer isWord isInteger, Scalar.ofInt_eq_iff isInteger] at same
      exact .integer isWord isInteger same
    | none =>
      cases isFloat : Decimal.Extended.read? text with
      | some x =>
        rw [Scalar.toText_ofText_of_float isWord isInteger isFloat] at same
        exact .float isWord isInteger isFloat same
      | none =>
        refine .text isWord ?_
        rw [← Decimal.Extended.read?_isSome_iff, isFloat]
        exact Bool.false_ne_true
  · intro keeps
    cases keeps with
    | word isWord lower => rw [Scalar.toText_ofText_of_isTruthWord isWord, lower]
    | integer other isRead plain =>
      rw [Scalar.toText_ofText_of_integer other isRead]
      exact (Scalar.ofInt_eq_iff isRead).2 plain
    | float other notInteger isRead shortest =>
      rw [Scalar.toText_ofText_of_float other notInteger isRead, shortest]
    | text other notNumeral => rw [Scalar.ofText_of_not_isNumeral other notNumeral]; rfl

/-- A number that keeps its spelling is in plain form, or the name of a number that is not
finite. -/
theorem KeepsSpelling.plain {text : Text} (keeps : KeepsSpelling text) (numeral : IsNumeral text) :
    IsPlain text ∨ text ∈ ["inf".toList, "-inf".toList, "NaN".toList] := by
  cases keeps with
  | word isWord lower =>
    have words : ¬ IsNumeral "true".toList ∧ ¬ IsNumeral "false".toList := by
      simp only [← Decimal.Extended.read?_isSome_iff]
      decide
    rw [IsTruthWord, lower] at isWord
    rcases isWord with rfl | rfl
    · exact absurd numeral words.1
    · exact absurd numeral words.2
  | integer other isRead plain =>
    rw [← (Scalar.ofInt_eq_iff isRead).2 plain]
    exact .inl (Scalar.isPlain_ofInt _)
  | @float _ _ x _ shortest =>
    cases x with
    | finite x =>
      rw [← shortest]
      exact .inl (Decimal.isPlain_text x)
    | infinite negative =>
      rw [← shortest]
      cases negative <;> exact .inr (by decide)
    | notANumber =>
      rw [← shortest]
      exact .inr (by decide)
  | text other notNumeral => exact absurd numeral notNumeral

end LoginGate.Environment
