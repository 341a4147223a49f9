import LoginGate.Decimal.Plain
import LoginGate.Proofs.Text.Numeral
import LoginGate.Proofs.Text.Trim

/-!
Contract: the form in which numbers are written.

Owns:
- the plain form: no plus sign, no zero too many in front or behind the point, no exponent;
- the law that every finite number is written in it.

Does not own: which texts are read as numbers (`Decimal.Numeral`).
-/

namespace LoginGate.Decimal

open Text (IsDigits IsWhole isDigit)

/-- Digits behind a point, the last of which is not zero. -/
def IsFraction (digits : Text) : Prop := IsDigits digits ∧ digits.getLast? ≠ some '0'

/-- A number without an exponent and without anything that could be left out. -/
def IsPlain (text : Text) : Prop :=
  ∃ sign whole, (sign = [] ∨ sign = ['-']) ∧ IsWhole whole ∧
    (text = sign ++ whole ∨
      ∃ fraction, IsFraction fraction ∧ text = sign ++ (whole ++ '.' :: fraction))

/-! ## Digits of a number -/

/-- Digits that begin and end with another digit than zero. -/
structure Digits.Proper (shortest : Digits) : Prop where
  digits : IsDigits shortest.digits
  first : shortest.digits.head? ≠ some '0'
  last : shortest.digits.getLast? ≠ some '0'

/-- Zero rounds to no other number. -/
theorem pos_of_readsBack {x : Double} {candidate : Nat} {power : Int} (notZero : x.isZero = false)
    (back : readsBack x candidate power = true) : 0 < candidate := by
  have significand : 0 < x.significand := by
    unfold Double.isZero at notZero
    have different := ne_of_beq_false notZero
    omega
  rw [Nat.pos_iff_ne_zero]
  rintro rfl
  have unit : 0 < Nat.pow 10 (-power).toNat * Nat.pow 2 (x.exponent - 2).toNat :=
    Nat.mul_pos (Nat.pow_pos (by decide)) (Nat.pow_pos (by decide))
  have low : 0 < (interval x).1 := by
    unfold interval
    dsimp only
    split <;> omega
  have product := Nat.mul_pos low unit
  unfold readsBack at back
  simp only [Nat.zero_mul] at back
  split at back
  · rw [Bool.and_eq_true, decide_eq_true_eq] at back
    omega
  · rw [Bool.and_eq_true, decide_eq_true_eq] at back
    omega

private theorem pos_of_nearest? {x : Double} {exponent : Int} {count candidate : Nat} {power : Int}
    (notZero : x.isZero = false) (found : nearest? x exponent count = some (candidate, power)) :
    0 < candidate := by
  unfold nearest? at found
  obtain ⟨other, near, same⟩ := Option.map_eq_some_iff.1 found
  cases same
  have back := List.find?_some near
  exact pos_of_readsBack notZero back

/-- Without the zeros at its end a number that is not zero is left with proper digits. -/
theorem proper_trimEnd {candidate : Nat} (positive : 0 < candidate) (exponent : Int) :
    ({ digits := Text.trimEnd (· == '0') (Text.ofNat candidate), exponent } : Digits).Proper := by
  obtain ⟨⟨notEmpty, allDigits⟩, -⟩ := Text.isWhole_ofNat candidate
  obtain ⟨c, rest, shape⟩ := List.exists_cons_of_ne_nil notEmpty
  have first : c ≠ '0' := by
    rintro rfl
    have zero := Text.eq_zero_of_head?_ofNat (congrArg List.head? shape)
    omega
  have kept : Text.trimEnd (· == '0') (c :: rest) = c :: Text.trimEnd (· == '0') rest :=
    Text.trimEnd_append_cons (by simp [first]) [] rest
  rw [shape] at allDigits
  rw [shape]
  refine ⟨⟨?_, ?_⟩, ?_, ?_⟩
  · simp [kept]
  · intro d member
    exact allDigits d ((Text.trimEnd_prefix _ _).subset member)
  · simp [kept, first]
  · intro ends
    have dropped := Text.not_dropped_of_getLast?_trimEnd ends
    exact absurd dropped (by decide)

private theorem proper_shortest {x : Double} (notZero : x.isZero = false) :
    (shortest x).Proper ∨ shortest x = { digits := ['0'], exponent := 0 } := by
  unfold shortest
  dsimp only
  split
  · rename_i candidate power found
    obtain ⟨i, -, near⟩ := List.exists_of_findSome?_eq_some found
    exact .inl (proper_trimEnd (pos_of_nearest? notZero near) _)
  · exact .inr rfl

/-! ## Plain form -/

private theorem isWhole_zero : IsWhole ['0'] :=
  ⟨⟨List.cons_ne_nil _ _, List.forall_mem_singleton.2 rfl⟩, fun _ => rfl⟩

/-- Digits that do not begin with zero have no zero too many, whatever stands behind them. -/
theorem isWhole_append {digits rest : Text} (allDigits : IsDigits digits)
    (first : digits.head? ≠ some '0') (allRest : ∀ c ∈ rest, isDigit c = true) :
    IsWhole (digits ++ rest) := by
  obtain ⟨c, others, rfl⟩ := List.exists_cons_of_ne_nil allDigits.1
  refine ⟨⟨by simp, List.forall_mem_append.2 ⟨allDigits.2, allRest⟩⟩, ?_⟩
  intro zero
  exact absurd zero first

private theorem isFraction_append {zeros digits : Text} (allZeros : ∀ c ∈ zeros, isDigit c = true)
    (allDigits : IsDigits digits) (last : digits.getLast? ≠ some '0') :
    IsFraction (zeros ++ digits) := by
  refine ⟨⟨by simp [allDigits.1], List.forall_mem_append.2 ⟨allZeros, allDigits.2⟩⟩, ?_⟩
  rw [List.getLast?_append, List.getLast?_eq_some_getLast allDigits.1, Option.some_or,
    ← List.getLast?_eq_some_getLast allDigits.1]
  exact last

private theorem isDigit_of_mem_zeros {count : Nat} :
    ∀ c ∈ List.replicate count '0', isDigit c = true := by
  intro c member
  rw [List.eq_of_mem_replicate member]
  rfl

theorem Digits.Proper.plainDigits {shortest : Digits} (proper : shortest.Proper) :
    ∃ whole, IsWhole whole ∧ (Extended.plainDigits shortest = whole ∨
      ∃ fraction, IsFraction fraction ∧
        Extended.plainDigits shortest = whole ++ '.' :: fraction) := by
  obtain ⟨digits, exponent⟩ := shortest
  obtain ⟨allDigits, first, last⟩ := proper
  unfold Extended.plainDigits
  dsimp only at allDigits first last ⊢
  split
  · exact ⟨['0'], isWhole_zero, .inr ⟨_, isFraction_append isDigit_of_mem_zeros allDigits last, rfl⟩⟩
  · obtain ⟨c, rest, rfl⟩ := List.exists_cons_of_ne_nil allDigits.1
    have whole : IsWhole ((c :: rest).take (exponent.toNat + 1) ++
        List.replicate (exponent.toNat + 1 - (c :: rest).length) '0') := by
      refine isWhole_append ⟨by simp, ?_⟩ first isDigit_of_mem_zeros
      intro d member
      exact allDigits.2 d (List.mem_of_mem_take member)
    refine ⟨_, whole, ?_⟩
    split
    · exact .inl (List.append_nil _)
    · rename_i more
      refine .inr ⟨(c :: rest).drop (exponent.toNat + 1), ⟨⟨?_, ?_⟩, ?_⟩, rfl⟩
      · simpa using more
      · intro d member
        exact allDigits.2 d (List.mem_of_mem_drop member)
      · rw [List.isEmpty_iff, List.drop_eq_nil_iff] at more
        rw [List.getLast?_drop, if_neg more]
        exact last

private theorem isPlain_of_plainDigits {shortest : Digits}
    (proper : shortest.Proper ∨ shortest = { digits := ['0'], exponent := 0 }) {sign : Text}
    (isSign : sign = [] ∨ sign = ['-']) : IsPlain (sign ++ Extended.plainDigits shortest) := by
  rcases proper with proper | rfl
  · obtain ⟨whole, isWhole, written | ⟨fraction, isFraction, written⟩⟩ := proper.plainDigits
    · exact ⟨sign, whole, isSign, isWhole, .inl (by rw [written])⟩
    · exact ⟨sign, whole, isSign, isWhole, .inr ⟨fraction, isFraction, by rw [written]⟩⟩
  · exact ⟨sign, ['0'], isSign, isWhole_zero, .inl rfl⟩

/-- A finite number is written in its plain form. -/
theorem isPlain_text (x : Double) : IsPlain (Extended.finite x).text := by
  have isSign : (if x.negative then ['-'] else []) = [] ∨
      (if x.negative then ['-'] else []) = ['-'] := by
    cases x.negative <;> simp
  unfold Extended.text
  dsimp only
  cases notZero : x.isZero with
  | true => exact ⟨_, ['0'], isSign, isWhole_zero, .inl (by rw [if_pos rfl])⟩
  | false =>
    rw [if_neg Bool.false_ne_true]
    exact isPlain_of_plainDigits (proper_shortest notZero) isSign

end LoginGate.Decimal
