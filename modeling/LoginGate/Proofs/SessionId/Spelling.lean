import Mathlib.Data.Nat.Digits.Defs
import LoginGate.Proofs.SessionId
import LoginGate.Proofs.Text.Classes

/-!
Contract: the texts that name a session id.

Owns:
- the value of a digit of base 32 in either letter case, and of a row of such digits;
- the relation between an id and the texts that name it, said without the reader;
- the law that an id is read from exactly the texts that name it.

Does not own: the digits that an id is written with (`Proofs.SessionId`).

A row of 26 digits holds 130 bits and an id 128. So two bits of the first digit are lost when an id
is read, and four texts of capitals name one id. An id is written with the least of them.
-/

namespace LoginGate.SessionId

def ofNumber (number : BitVec 128) : SessionId := { bits := number.toNat }

/-- A digit of base 32, as a capital or a small letter. -/
def IsDigit (c : Char) : Prop := Text.asciiUpper c ∈ alphabet

def place (c : Char) : Nat := alphabet.idxOf (Text.asciiUpper c)

/-- The value of a row of digits, the first of which counts most. -/
def rowValue (row : Text) : Nat := Nat.ofDigits 32 (row.map place).reverse

/-- What stands behind the mark, or all of a text that has no mark. -/
inductive Unmarked : (text behind : Text) -> Prop where
  | marked (behind : Text) : Unmarked (mark ++ behind) behind
  | bare {text : Text} (missing : ¬ mark <+: text) : Unmarked text text

/-- The text names the id: by 26 digits, behind the mark or alone, whose value is the id's number up
to multiples of the number of ids. -/
def Names (text : Text) (id : SessionId) : Prop :=
  ∃ row, Unmarked text row ∧ row.length = width ∧ (∀ c ∈ row, IsDigit c) ∧
    id.bits = rowValue row % count

/-! ## Digits -/

theorem digitValue?_eq_some_iff {c : Char} {value : Nat} :
    digitValue? c = some value ↔ IsDigit c ∧ place c = value := by
  unfold digitValue? IsDigit place
  rw [List.findIdx?_eq_some_iff_findIdx_eq, ← List.idxOf, ← List.idxOf_lt_length_iff]
  constructor
  · rintro ⟨within, rfl⟩
    exact ⟨within, rfl⟩
  · rintro ⟨within, rfl⟩
    exact ⟨within, rfl⟩

/-- The small form of a digit is the same digit. -/
theorem asciiUpper_asciiLower (c : Char) :
    Text.asciiUpper (Text.asciiLower c) = Text.asciiUpper c := by
  by_cases ascii : c.toNat < 128
  · revert c
    exact Text.forall_ascii (by decide)
  · have kept : Text.asciiLower c = c := by
      unfold Text.asciiLower
      apply if_neg
      rw [Bool.and_eq_true, decide_eq_true_eq, decide_eq_true_eq]
      rintro ⟨-, small⟩
      exact ascii (Nat.lt_of_le_of_lt small (by decide))
    rw [kept]

/-- A digit is in ASCII. -/
theorem IsDigit.ascii {c : Char} (isDigit : IsDigit c) : c.toNat < 128 := by
  unfold IsDigit at isDigit
  have capitals : alphabet.all (·.toNat < 128) = true := by decide
  have upper := of_decide_eq_true (List.all_eq_true.1 capitals _ isDigit)
  unfold Text.asciiUpper at upper
  split at upper
  · rename_i small
    rw [Bool.and_eq_true, decide_eq_true_eq, decide_eq_true_eq] at small
    exact Nat.lt_of_le_of_lt small.2 (by decide)
  · exact upper

/-! ## Rows of digits -/

theorem mapM_digitValue?_eq_some_iff {row : Text} {values : List Nat} :
    row.mapM digitValue? = some values ↔ (∀ c ∈ row, IsDigit c) ∧ row.map place = values := by
  induction row generalizing values with
  | nil => simp [eq_comm]
  | cons c rest inductionHypothesis =>
    simp only [List.mapM_cons, Option.pure_def, Option.bind_eq_bind, Option.bind_eq_some_iff,
      Option.some.injEq, digitValue?_eq_some_iff, inductionHypothesis, List.forall_mem_cons,
      List.map_cons]
    constructor
    · rintro ⟨_, ⟨first, rfl⟩, _, ⟨others, rfl⟩, rfl⟩
      exact ⟨⟨first, others⟩, rfl⟩
    · rintro ⟨⟨first, others⟩, rfl⟩
      exact ⟨_, ⟨first, rfl⟩, _, ⟨others, rfl⟩, rfl⟩

/-- The reader's running value is the value of the row. -/
theorem ofValues_map_place (row : Text) : ofValues 0 (row.map place) = rowValue row := by
  unfold ofValues rowValue
  rw [Nat.ofDigits_eq_foldr, List.foldr_reverse]
  simp only [Nat.cast_id, Nat.add_comm, Nat.mul_comm]

theorem parseBare_eq_ok_iff {row : Text} {id : SessionId} :
    parseBare row = .ok id ↔
      row.length = width ∧ (∀ c ∈ row, IsDigit c) ∧ id.bits = rowValue row % count := by
  unfold parseBare
  cases read : row.mapM digitValue? with
  | none =>
    have foreign : ¬ ∀ c ∈ row, IsDigit c := by
      intro digits
      rw [mapM_digitValue?_eq_some_iff.2 ⟨digits, rfl⟩] at read
      cases read
    split <;> simp [foreign]
  | some values =>
    obtain ⟨digits, rfl⟩ := mapM_digitValue?_eq_some_iff.1 read
    rw [Utf8.length_encode fun c member => (digits c member).ascii]
    have number := ofValues_map_place row
    unfold ofValues at number
    split
    · rename_i different
      simp [different]
    · rename_i whole
      rw [Except.ok.injEq, number]
      constructor
      · rintro rfl
        exact ⟨not_not.1 whole, digits, rfl⟩
      · rintro ⟨-, -, same⟩
        rw [← same]

/-- Small letters do as well as capitals. -/
theorem parseBare_toAsciiLower (row : Text) (id : SessionId) :
    parseBare (Text.toAsciiLower row) = .ok id ↔ parseBare row = .ok id := by
  have isDigit (c : Char) : IsDigit (Text.asciiLower c) ↔ IsDigit c := by
    unfold IsDigit
    rw [asciiUpper_asciiLower]
  have place (c : Char) : place (Text.asciiLower c) = place c := by
    unfold SessionId.place
    rw [asciiUpper_asciiLower]
  rw [parseBare_eq_ok_iff, parseBare_eq_ok_iff]
  simp [Text.toAsciiLower, rowValue, isDigit, Function.comp_def, place]

/-! ## Marks -/

theorem unmarked_iff {text behind : Text} :
    Unmarked text behind ↔ (Text.afterPrefix? mark text).getD text = behind := by
  constructor
  · rintro (_ | missing)
    · rw [Text.afterPrefix?_eq_some_iff.2 rfl]
      rfl
    · cases marked : Text.afterPrefix? mark text with
      | none => rfl
      | some behind => exact absurd ⟨behind, (Text.afterPrefix?_eq_some_iff.1 marked).symm⟩ missing
  · rintro rfl
    cases marked : Text.afterPrefix? mark text with
    | none =>
      refine .bare ?_
      rintro ⟨behind, whole⟩
      rw [Text.afterPrefix?_eq_some_iff.2 whole.symm] at marked
      cases marked
    | some behind =>
      rw [Text.afterPrefix?_eq_some_iff.1 marked]
      exact .marked behind

/-- Digits are not taken for a mark. -/
theorem unmarked_of_isDigit {row : Text} (digits : ∀ c ∈ row, IsDigit c) : Unmarked row row := by
  refine .bare ?_
  rintro ⟨behind, rfl⟩
  have bar : '_' ∈ mark ++ behind := List.mem_append_left _ (by decide)
  have foreign : ¬ IsDigit '_' := by
    unfold IsDigit
    decide
  exact foreign (digits _ bar)

private theorem parse_of_unmarked {text row : Text} (unmarked : Unmarked text row) :
    parse text = parseBare row := by
  rw [parse, unmarked_iff.1 unmarked]

/-- An id is read from exactly the texts that name it. -/
theorem parse_eq_ok_iff {text : Text} {id : SessionId} : parse text = .ok id ↔ Names text id := by
  unfold parse Names
  rw [parseBare_eq_ok_iff]
  constructor
  · intro read
    exact ⟨_, unmarked_iff.2 rfl, read⟩
  · rintro ⟨row, unmarked, read⟩
    rwa [unmarked_iff.1 unmarked]

/-- A row of digits is read alike behind a mark and alone. -/
theorem parse_of_parseBare {row : Text} {id : SessionId} (read : parseBare row = .ok id) :
    parse row = .ok id ∧ parse (mark ++ row) = .ok id := by
  obtain ⟨-, digits, -⟩ := parseBare_eq_ok_iff.1 read
  rw [parse_of_unmarked (unmarked_of_isDigit digits), parse_of_unmarked (.marked row)]
  exact ⟨read, read⟩

/-! ## Ids and their texts -/

private theorem mem_alphabet_of_mem_digits {count n : Nat} {c : Char}
    (member : c ∈ digits count n) : c ∈ alphabet := by
  have every : ∀ value, value < 32 -> digit value ∈ alphabet := by decide
  obtain ⟨value, small, rfl⟩ := exists_of_mem_digits member
  exact every value small

/-- **Ids and texts.** Every number of 128 bits gives an id that is written as the mark and 26 digits
of the alphabet, and is read again from these digits as capitals or small letters, with the mark or
without it. Different numbers are written differently. And an id is read from a text exactly if the
text names it, so that every other text is an error. -/
theorem written_ids_are_read_back :
    (∀ number : BitVec 128, ∃ row, (ofNumber number).text = "sess_".toList ++ row ∧
      row.length = 26 ∧ row ⊆ "0123456789ABCDEFGHJKMNPQRSTVWXYZ".toList ∧
      parse ("sess_".toList ++ row) = .ok (ofNumber number) ∧
      parse row = .ok (ofNumber number) ∧
      parse ("sess_".toList ++ Text.toAsciiLower row) = .ok (ofNumber number) ∧
      parse (Text.toAsciiLower row) = .ok (ofNumber number)) ∧
    Function.Injective (fun number : BitVec 128 => (ofNumber number).text) ∧
    ∀ text, (∀ id, parse text = .ok id ↔ Names text id) ∧
      ((∃ error, parse text = .error error) ↔ ∀ id, ¬ Names text id) := by
  have drawn (number : BitVec 128) : (ofNumber number).bits < count := number.isLt
  refine ⟨?_, ?_, ?_⟩
  · intro number
    have read := parseBare_bareText (drawn number)
    have capitals := parse_of_parseBare read
    have small := parse_of_parseBare ((parseBare_toAsciiLower _ _).2 read)
    exact ⟨(ofNumber number).bareText, rfl, length_digits _ _,
      fun _ => mem_alphabet_of_mem_digits, capitals.2, capitals.1, small.2, small.1⟩
  · intro number other same
    have read : parse (ofNumber number).text = .ok (ofNumber other) := by
      rw [show (ofNumber number).text = (ofNumber other).text from same]
      exact parse_text (drawn other)
    rw [parse_text (drawn number)] at read
    exact BitVec.eq_of_toNat_eq (congrArg SessionId.bits (Except.ok.inj read))
  · intro text
    refine ⟨fun _ => parse_eq_ok_iff, ?_⟩
    simp only [← parse_eq_ok_iff]
    cases parse text <;> simp

end LoginGate.SessionId
