import LoginGate.Text.Classes

/-!
Contract: character classes as ranges of code points.

Owns:
- what is checked number by number for the characters of ASCII;
- ASCII digits and letters;
- the white space, line ends among it, that is dropped around a URL.

Does not own: classes of a single format.
-/

namespace LoginGate.Text

/-- What holds of the numbers of ASCII holds of its characters. -/
theorem forall_ascii {P : Char -> Prop} (every : ∀ n, n < 128 -> P (Char.ofNat n)) :
    ∀ c : Char, c.toNat < 128 -> P c := by
  intro c small
  have number := every c.toNat small
  rwa [Char.ofNat_toNat] at number

theorem isDigit_iff {c : Char} : isDigit c = true ↔ 48 ≤ c.toNat ∧ c.toNat ≤ 57 := by
  unfold isDigit
  rw [Bool.and_eq_true, decide_eq_true_eq, decide_eq_true_eq]
  exact Iff.rfl

theorem toNat_lt_of_isDigit {c : Char} (digit : isDigit c = true) : c.toNat < 128 := by
  have bounds := isDigit_iff.1 digit
  omega

theorem isLetter_iff {c : Char} :
    isLetter c = true ↔ 97 ≤ c.toNat ∧ c.toNat ≤ 122 ∨ 65 ≤ c.toNat ∧ c.toNat ≤ 90 := by
  unfold isLetter
  rw [Bool.or_eq_true, Bool.and_eq_true, Bool.and_eq_true, decide_eq_true_eq, decide_eq_true_eq,
    decide_eq_true_eq, decide_eq_true_eq]
  exact Iff.rfl

/-- Of all white space, a URL parser drops what is ASCII. -/
theorem isC0ControlOrSpace_iff_of_isWhitespace {c : Char} (blank : isWhitespace c = true) :
    isC0ControlOrSpace c = true ↔ c.toNat < 128 := by
  simp only [isWhitespace, Bool.or_eq_true, Bool.and_eq_true, decide_eq_true_eq, beq_iff_eq] at blank
  simp only [isC0ControlOrSpace, decide_eq_true_eq]
  omega

theorem isTabOrNewline_of_not_dropped {c : Char} (kept : isC0ControlOrSpace c = false) :
    isTabOrNewline c = false := by
  apply Bool.eq_false_iff.2
  intro dropped
  simp only [isTabOrNewline, Bool.or_eq_true, beq_iff_eq] at dropped
  rcases dropped with (rfl | rfl) | rfl
  all_goals exact absurd kept (by decide)

end LoginGate.Text
