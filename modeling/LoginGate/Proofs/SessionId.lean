import LoginGate.Proofs.Text.Utf8
import LoginGate.SessionId

/-!
Contract: an id is read from the text that it is written as.

Owns: the values of the digits of base 32, and the round trip of an id with its mark.
Does not own: the cookie around it (`Http.Cookie`).
-/

namespace LoginGate.SessionId

/-- The number that digits of base 32 denote, behind the digits of another. -/
def ofValues (start : Nat) (values : List Nat) : Nat :=
  values.foldl (fun value digit => value * 32 + digit) start

private theorem digitValue?_digit {value : Nat} (small : value < 32) :
    digitValue? (digit value) = some value := by
  have every : ∀ value, value < 32 -> digitValue? (digit value) = some value := by decide
  exact every value small

/-- Digits are written in ASCII. -/
theorem digit_lt {value : Nat} (small : value < 32) : (digit value).toNat < 0x80 := by
  have every : ∀ value, value < 32 -> (digit value).toNat < 0x80 := by decide
  exact every value small

theorem length_digits (count n : Nat) : (digits count n).length = count := by
  induction count generalizing n with
  | zero => rfl
  | succ count inductionHypothesis =>
    rw [digits, List.length_append, inductionHypothesis]
    rfl

theorem exists_of_mem_digits {count n : Nat} {c : Char} (member : c ∈ digits count n) :
    ∃ value, value < 32 ∧ c = digit value := by
  induction count generalizing n with
  | zero => cases member
  | succ count inductionHypothesis =>
    rcases List.mem_append.1 member with earlier | last
    · exact inductionHypothesis earlier
    · exact ⟨n % 32, Nat.mod_lt _ (by decide), List.mem_singleton.1 last⟩

/-- Digits denote the number that they were made from, as far as they reach. -/
theorem mapM_digits (count n : Nat) :
    ∃ values, (digits count n).mapM digitValue? = some values ∧
      ofValues 0 values = n % Nat.pow 32 count := by
  induction count generalizing n with
  | zero => exact ⟨[], rfl, (Nat.mod_one n).symm⟩
  | succ count inductionHypothesis =>
    obtain ⟨values, read, number⟩ := inductionHypothesis (n / 32)
    refine ⟨values ++ [n % 32], ?_, ?_⟩
    · rw [digits, List.mapM_append, read]
      simp [digitValue?_digit (Nat.mod_lt n (by decide : 0 < 32))]
    · unfold ofValues at number ⊢
      rw [List.foldl_append, number, List.foldl_cons, List.foldl_nil]
      have larger : Nat.pow 32 (count + 1) = 32 * Nat.pow 32 count := Nat.pow_succ'
      rw [larger, Nat.mod_mul]
      omega

theorem parseBare_bareText {id : SessionId} (drawn : id.bits < count) :
    parseBare id.bareText = .ok id := by
  obtain ⟨values, read, number⟩ := mapM_digits width id.bits
  have ascii : ∀ c ∈ id.bareText, c.toNat < 0x80 := by
    intro c member
    obtain ⟨value, small, rfl⟩ := exists_of_mem_digits member
    exact digit_lt small
  have length : (Utf8.encode id.bareText).length = width :=
    (Utf8.length_encode ascii).trans (length_digits width id.bits)
  have fits : count ≤ Nat.pow 32 width := by decide
  unfold parseBare
  rw [if_neg (not_not_intro length)]
  unfold bareText ofValues at *
  rw [read]
  dsimp only
  rw [number, Nat.mod_eq_of_lt (Nat.lt_of_lt_of_le drawn fits), Nat.mod_eq_of_lt drawn]

/-- An id is read from its text. -/
theorem parse_text {id : SessionId} (drawn : id.bits < count) : parse id.text = .ok id := by
  have marked : Text.afterPrefix? mark id.text = some id.bareText :=
    Text.afterPrefix?_eq_some_iff.2 rfl
  unfold parse
  rw [marked]
  exact parseBare_bareText drawn

end LoginGate.SessionId
