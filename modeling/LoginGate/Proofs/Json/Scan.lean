import LoginGate.Json.Reader
import LoginGate.Proofs.Except
import LoginGate.Proofs.Json.Grammar

/-!
Contract: places in a JSON text, by the bytes that are unread there.

Owns:
- what is unread behind a step, behind blanks and behind a keyword;
- the specification of a reader: the value that it gives and the bytes that it leaves.

Does not own: strings (`Json.Quotation`), numbers (`Json.Digits`) and what is built from them.

Lines and columns only go into errors. So a reader is specified by the unread bytes alone, and an
error by that there is one.
-/

namespace LoginGate.Json

/-! ## Bytes as characters -/

theorem toNat_toChar (byte : UInt8) : (Char.ofNat byte.toNat).toNat = byte.toNat := by
  have small := byte.toNat_lt
  have valid : byte.toNat.isValidChar := .inl (by omega)
  rw [Char.ofNat, dif_pos valid]
  rfl

theorem toByte_toChar (byte : UInt8) : UInt8.ofNat (Char.ofNat byte.toNat).toNat = byte := by
  rw [toNat_toChar, UInt8.ofNat_toNat]

theorem toChar_toByte {c : Char} (ascii : c.toNat < 0x80) :
    Char.ofNat (UInt8.ofNat c.toNat).toNat = c := by
  rw [UInt8.toNat_ofNat', Nat.mod_eq_of_lt (by omega), Char.ofNat_toNat]

/-! ## Steps -/

namespace Cursor

@[simp] theorem rest_advance (cursor : Cursor) : cursor.advance.rest = cursor.rest.tail := by
  unfold advance
  split
  · next none => rw [none, List.tail_nil]
  · next more =>
    rw [more, List.tail_cons]
    split <;> rfl

theorem rest_advance_of_cons {cursor : Cursor} {byte : UInt8} {more : Bytes}
    (shape : cursor.rest = byte :: more) : cursor.advance.rest = more := by
  rw [rest_advance, shape, List.tail_cons]

@[simp] theorem rest_advanceBy (n : Nat) (cursor : Cursor) :
    (advanceBy n cursor).rest = cursor.rest.drop n := by
  induction n generalizing cursor with
  | zero => rfl
  | succ n inductionHypothesis =>
    rw [advanceBy, inductionHypothesis, rest_advance, List.drop_tail]

theorem peek_of_rest {cursor : Cursor} {byte : UInt8} {more : Bytes}
    (shape : cursor.rest = byte :: more) : cursor.peek = some (Char.ofNat byte.toNat) := by
  rw [peek, shape]
  rfl

/-- A character that comes next is one byte, and a step passes it. -/
theorem rest_of_peek {cursor : Cursor} {c : Char} (peeked : cursor.peek = some c) :
    cursor.rest = UInt8.ofNat c.toNat :: cursor.advance.rest := by
  obtain ⟨byte, head, rfl⟩ := Option.map_eq_some_iff.1 peeked
  obtain ⟨more, shape⟩ := List.head?_eq_some_iff.1 head
  rw [rest_advance, shape, toByte_toChar, List.tail_cons]

@[simp] theorem rest_skipBlank (cursor : Cursor) :
    cursor.skipBlank.rest = cursor.rest.dropWhile isBlankByte := by
  fun_induction skipBlank cursor with
  | case1 cursor none => rw [none, List.dropWhile_nil]
  | case2 cursor byte more shape blank inductionHypothesis =>
    rw [inductionHypothesis, rest_advance, shape, List.tail_cons, List.dropWhile_cons_of_pos blank]
  | case3 cursor byte more shape notBlank =>
    rw [shape, List.dropWhile_cons_of_neg notBlank]

end Cursor

/-! ## Blanks -/

theorem blank_dropWhile (bytes : Bytes) : Blank bytes (bytes.dropWhile isBlankByte) := by
  induction bytes with
  | nil => exact .none []
  | cons byte more inductionHypothesis =>
    by_cases blank : isBlankByte byte = true
    · rw [List.dropWhile_cons_of_pos blank]
      exact .more blank inductionHypothesis
    · rw [List.dropWhile_cons_of_neg blank]
      exact .none _

theorem Blank.dropWhile_eq {bytes rest : Bytes} (blank : Blank bytes rest) :
    bytes.dropWhile isBlankByte = rest.dropWhile isBlankByte := by
  induction blank with
  | none => rfl
  | more isBlank _ inductionHypothesis =>
    rw [List.dropWhile_cons_of_pos isBlank, inductionHypothesis]

/-- Blanks before a byte that is none are skipped up to it. -/
theorem Blank.rest_skipBlank {cursor : Cursor} {byte : UInt8} {more : Bytes}
    (blank : Blank cursor.rest (byte :: more)) (notBlank : isBlankByte byte = false) :
    cursor.skipBlank.rest = byte :: more := by
  rw [Cursor.rest_skipBlank, blank.dropWhile_eq, List.dropWhile_cons_of_neg]
  rw [notBlank]
  exact Bool.false_ne_true

/-! ## Readers -/

/-- A reader gives the value, if there is one, and leaves the rest unread; else it fails. -/
def Yields {α : Type} (result : Except ReadError (α × Cursor)) (value? : Option α) (rest : Bytes) :
    Prop :=
  match value? with
  | some value => ∃ after, result = .ok (value, after) ∧ after.rest = rest
  | none => ∃ error, result = .error error

theorem Yields.ok {α : Type} {value : α} {after : Cursor} {rest : Bytes}
    (left : after.rest = rest) : Yields (.ok (value, after)) (some value) rest :=
  ⟨after, rfl, left⟩

/-- One reader after another. -/
theorem Yields.bind {α β : Type} {result : Except ReadError (α × Cursor)} {value? : Option α}
    {next : α × Cursor -> Except ReadError (β × Cursor)} {then? : α -> Option β}
    {behind rest : Bytes} (first : Yields result value? behind)
    (second : ∀ value after, value? = some value -> after.rest = behind ->
      Yields (next (value, after)) (then? value) rest) :
    Yields (result >>= next) (value?.bind then?) rest := by
  cases value? with
  | none =>
    obtain ⟨error, rfl⟩ := first
    exact ⟨error, rfl⟩
  | some value =>
    obtain ⟨after, rfl, left⟩ := first
    exact second value after rfl left

/-- A reader whose value is used as it is. -/
theorem Yields.map {α β : Type} {result : Except ReadError (α × Cursor)} {value? : Option α}
    {next : α × Cursor -> Except ReadError (β × Cursor)} {f : α -> β} {behind rest : Bytes}
    (first : Yields result value? behind)
    (second : ∀ value after, after.rest = behind ->
      ∃ final, next (value, after) = .ok (f value, final) ∧ final.rest = rest) :
    Yields (result >>= next) (value?.map f) rest := by
  rw [Option.map_eq_bind]
  exact first.bind fun value after _ left => second value after left

/-! ## Keywords -/

theorem readKeyword_sound {letters : Text} {cursor after : Cursor}
    (read : readKeyword letters cursor = .ok after) :
    cursor.rest = (letters.map fun c => UInt8.ofNat c.toNat) ++ after.rest := by
  fun_induction readKeyword letters cursor with
  | case1 cursor => cases read; rfl
  | case2 => cases read
  | case3 cursor letter letters same inductionHypothesis =>
    rw [Cursor.rest_of_peek same, inductionHypothesis read, List.map_cons, List.cons_append]
  | case4 => cases read

theorem readKeyword_complete {letters : Text} (ascii : ∀ c ∈ letters, c.toNat < 0x80)
    (cursor : Cursor) {rest : Bytes}
    (shape : cursor.rest = (letters.map fun c => UInt8.ofNat c.toNat) ++ rest) :
    ∃ after, readKeyword letters cursor = .ok after ∧ after.rest = rest := by
  induction letters generalizing cursor with
  | nil => exact ⟨cursor, rfl, shape⟩
  | cons letter letters inductionHypothesis =>
    rw [List.forall_mem_cons] at ascii
    rw [List.map_cons, List.cons_append] at shape
    rw [readKeyword, Cursor.peek_of_rest shape, toChar_toByte ascii.1]
    dsimp only
    rw [if_pos rfl]
    exact inductionHypothesis ascii.2 _ (Cursor.rest_advance_of_cons shape)

end LoginGate.Json
