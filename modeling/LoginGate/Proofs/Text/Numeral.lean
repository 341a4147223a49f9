import LoginGate.Proofs.Text.Classes
import LoginGate.Text.Numeral

/-!
Contract: decimal digits and the numbers they stand for.

Owns:
- texts of decimal digits, and those that begin with no zero too many;
- the value of such a text;
- the law that a number is written back exactly by the digits with no zero too many.

Does not own: signs, points and exponents (`Environment.Numeral`).
-/

namespace LoginGate.Text

/-- At least one decimal digit and nothing else. -/
def IsDigits (text : Text) : Prop := text ≠ [] ∧ ∀ c ∈ text, isDigit c = true

/-- Digits that begin with zero only if that is all. -/
def IsWhole (digits : Text) : Prop :=
  IsDigits digits ∧ (digits.head? = some '0' -> digits = ['0'])

/-! ## Single digits -/

private theorem digitValue?_ten (c : Char) :
    digitValue? 10 c = if isDigit c then some (c.toNat - '0'.toNat) else none := by
  unfold digitValue?
  by_cases digit : isDigit c = true
  · have bounds := isDigit_iff.1 digit
    have zero : '0'.toNat = 48 := rfl
    rw [if_pos digit, if_pos digit, if_pos (by omega)]
  · have small : 'a'.toNat = 97 := rfl
    have capital : 'A'.toNat = 65 := rfl
    rw [if_neg digit, if_neg digit]
    refine if_neg ?_
    split
    · omega
    · split
      · omega
      · omega

private theorem toDigits_of_isDigit {c : Char} (digit : isDigit c = true) :
    Nat.toDigits 10 (c.toNat - '0'.toNat) = [c] := by
  have bounds := isDigit_iff.1 digit
  have zero : '0'.toNat = 48 := rfl
  have same : (c.toNat - '0'.toNat).digitChar = c := by
    apply Char.toNat_inj.1
    rw [Nat.toNat_digitChar_of_lt_ten (by omega)]
    omega
  rw [Nat.toDigits_of_lt_base (by omega), same]

/-! ## Texts of digits -/

theorem foldlM_digitValue?_eq_some_iff {digits : Text} {start n : Nat} :
    digits.foldlM (fun value c => (digitValue? 10 c).map (value * 10 + ·)) start = some n ↔
      (∀ c ∈ digits, isDigit c = true) ∧ Nat.ofDigitChars 10 digits start = n := by
  induction digits generalizing start with
  | nil => simp [Nat.ofDigitChars]
  | cons c rest inductionHypothesis =>
    rw [List.foldlM_cons, digitValue?_ten, List.forall_mem_cons, Nat.ofDigitChars_cons]
    by_cases digit : isDigit c = true
    · rw [if_pos digit, Option.map_some, Option.bind_eq_bind, Option.bind_some,
        inductionHypothesis, Nat.mul_comm start]
      simp [digit]
    · simp [digit]

theorem toNat?_ten_eq_some_iff {digits : Text} {n : Nat} :
    toNat? 10 digits = some n ↔ IsDigits digits ∧ Nat.ofDigitChars 10 digits 0 = n := by
  unfold toNat? IsDigits digitsValue?
  cases digits with
  | nil => simp
  | cons c rest =>
    rw [List.isEmpty_cons, if_neg Bool.false_ne_true, foldlM_digitValue?_eq_some_iff]
    simp

/-- Only the digits of zero begin with zero. -/
theorem eq_zero_of_head?_ofNat {n : Nat} (zero : (ofNat n).head? = some '0') : n = 0 := by
  unfold ofNat at zero
  induction n using Nat.strongRecOn with
  | ind n inductionHypothesis =>
    by_cases small : n < 10
    · rw [Nat.toDigits_of_lt_base small] at zero
      have value := congrArg Char.toNat (Option.some.inj zero)
      rw [Nat.toNat_digitChar_of_lt_ten small] at value
      have code : '0'.toNat = 48 := rfl
      omega
    · rw [Nat.toDigits_of_base_le (by decide) (by omega), List.head?_append,
        List.head?_eq_some_head Nat.toDigits_ne_nil, Option.some_or,
        ← List.head?_eq_some_head Nat.toDigits_ne_nil] at zero
      have quotient := inductionHypothesis (n / 10) (by omega) zero
      omega

theorem isWhole_ofNat (n : Nat) : IsWhole (ofNat n) := by
  refine ⟨⟨Nat.toDigits_ne_nil, ?_⟩, ?_⟩
  · intro c member
    have digit := Nat.isDigit_of_mem_toDigits (by decide) (by decide) member
    exact digit
  · intro zero
    rw [eq_zero_of_head?_ofNat zero]
    rfl

/-- Digits behind a number that is not zero are read on and written as they are. -/
theorem ofNat_ofDigitChars_of_pos {digits : Text} (allDigits : ∀ c ∈ digits, isDigit c = true)
    {start : Nat} (positive : 0 < start) :
    ofNat (Nat.ofDigitChars 10 digits start) = ofNat start ++ digits := by
  unfold ofNat
  induction digits generalizing start with
  | nil => exact (List.append_nil _).symm
  | cons c rest inductionHypothesis =>
    rw [List.forall_mem_cons] at allDigits
    have bounds := isDigit_iff.1 allDigits.1
    have code : '0'.toNat = 48 := rfl
    rw [Nat.ofDigitChars_cons, inductionHypothesis allDigits.2 (by omega),
      ← Nat.toDigits_append_toDigits (by decide) positive (by omega),
      toDigits_of_isDigit allDigits.1, List.append_assoc]
    rfl

/-- Digits with no zero too many are the digits of their value. -/
theorem ofNat_ofDigitChars {digits : Text} (whole : IsWhole digits) :
    ofNat (Nat.ofDigitChars 10 digits 0) = digits := by
  obtain ⟨⟨notEmpty, allDigits⟩, leading⟩ := whole
  cases digits with
  | nil => exact absurd rfl notEmpty
  | cons c rest =>
    by_cases zero : c = '0'
    · rw [leading (congrArg some zero)]
      rfl
    · rw [List.forall_mem_cons] at allDigits
      have bounds := isDigit_iff.1 allDigits.1
      have code : '0'.toNat = 48 := rfl
      have positive : 0 < 10 * 0 + (c.toNat - '0'.toNat) := by
        have different : c.toNat ≠ '0'.toNat := fun same => zero (Char.toNat_inj.1 same)
        omega
      rw [Nat.ofDigitChars_cons, ofNat_ofDigitChars_of_pos allDigits.2 positive, Nat.mul_zero,
        Nat.zero_add, ofNat, toDigits_of_isDigit allDigits.1]
      rfl

end LoginGate.Text
