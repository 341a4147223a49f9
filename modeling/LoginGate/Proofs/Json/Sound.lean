import LoginGate.Proofs.Json.Digits
import LoginGate.Proofs.Json.Quotation

/-!
Contract: whatever is read as a JSON value is written by the grammar.

Owns: the written form behind each reading, from the steps between items to whole values.
Does not own: the value that a written form has (`Json.Meaning`, `Json.Complete`).

The reader skips blanks before a value. So the value that was read is written not here but behind
blanks.
-/

namespace LoginGate.Json

/-! ## Blanks and steps between items -/

theorem Blank.trans {bytes between rest : Bytes} (first : Blank bytes between)
    (second : Blank between rest) : Blank bytes rest := by
  induction first with
  | none => exact second
  | more isBlank _ inductionHypothesis => exact .more isBlank (inductionHypothesis second)

theorem Lead.trans {first : Bool} {bytes between rest : Bytes} (lead : Lead first bytes between)
    (blank : Blank between rest) : Lead first bytes rest := by
  cases lead with
  | first before => exact .first (before.trans blank)
  | comma before behind => exact .comma before (behind.trans blank)

theorem blank_skipBlank (cursor : Cursor) : Blank cursor.rest cursor.skipBlank.rest := by
  rw [Cursor.rest_skipBlank]
  exact blank_dropWhile cursor.rest

/-- A comma between blanks was passed. -/
theorem lead_of_comma {cursor : Cursor} (comma : cursor.skipBlank.peek = some ',') :
    Lead false cursor.rest cursor.skipBlank.advance.skipBlank.rest := by
  have before := blank_skipBlank cursor
  rw [Cursor.rest_of_peek comma] at before
  exact .comma before (blank_skipBlank cursor.skipBlank.advance)

/-- Behind the last item the closing bracket comes next. -/
theorem blank_of_nextItem {closing : Char} {ended : Cause}
    {start : Char -> Cursor -> Except ReadError Cursor} {cursor : Cursor}
    (found : nextItem closing ended start cursor = .ok none) :
    Blank cursor.rest (UInt8.ofNat closing.toNat :: cursor.skipBlank.advance.rest) :=
  Cursor.rest_of_peek (nextItem_eq_none_iff.1 found) ▸ blank_skipBlank cursor

private theorem nextElement_some {first : Bool} {cursor next : Cursor}
    (found : nextElement first cursor = .ok (some next)) : Lead first cursor.rest next.rest := by
  obtain ⟨c, peeked, -, started⟩ := nextItem_eq_some_iff.1 found
  unfold elementStart at started
  cases first with
  | true =>
    cases started
    exact .first (blank_skipBlank cursor)
  | false =>
    rw [if_neg Bool.false_ne_true] at started
    split at started
    · next comma =>
      subst comma
      dsimp only at started
      split at started
      · cases started
      · cases started
        exact lead_of_comma peeked
      · cases started
    · cases started

private theorem nextKey_some {first : Bool} {cursor next : Cursor}
    (found : nextKey first cursor = .ok (some next)) :
    Lead first cursor.rest (0x22 :: next.rest) := by
  obtain ⟨c, peeked, -, started⟩ := nextItem_eq_some_iff.1 found
  unfold keyStart at started
  split at started
  · cases started
  · next allowed =>
    have lead : Lead first cursor.rest
        (if first = true then cursor.skipBlank else cursor.skipBlank.advance.skipBlank).rest := by
      cases first with
      | true => exact .first (blank_skipBlank cursor)
      | false =>
        obtain rfl : c = ',' := by simpa using allowed
        exact lead_of_comma peeked
    dsimp only at started
    generalize (if first = true then cursor.skipBlank else cursor.skipBlank.advance.skipBlank) =
      key at started lead
    split at started
    · next quote =>
      cases started
      rw [Cursor.rest_of_peek quote] at lead
      exact lead
    all_goals cases started

private theorem readColon_sound {cursor after : Cursor} (read : readColon cursor = .ok after) :
    Blank cursor.rest (0x3A :: after.rest) := by
  unfold readColon at read
  dsimp only at read
  split at read
  · next colon =>
    cases read
    have before := blank_skipBlank cursor
    rw [Cursor.rest_of_peek colon] at before
    exact before
  all_goals cases read

/-! ## Loops -/

/-- Whatever the reader reads is a value that is written behind blanks. -/
def ReadsWritten {α : Type} (readOne : Cursor -> Except ReadError (α × Cursor)) : Prop :=
  ∀ cursor one after, readOne cursor = .ok (one, after) ->
    ∃ tree start, Blank cursor.rest start ∧ Written tree start after.rest

private theorem readElements_sound {α : Type} {readOne : Cursor -> Except ReadError (α × Cursor)}
    (reads : ReadsWritten readOne) {fuel : Nat} {first : Bool} {cursor after : Cursor}
    {items : List α} (read : readElements readOne fuel first cursor = .ok (items, after)) :
    ∃ trees, Row Written 0x5D first trees cursor.rest after.advance.rest := by
  induction fuel generalizing first cursor items with
  | zero => cases read
  | succ fuel inductionHypothesis =>
    obtain ⟨next?, found, afterNext⟩ := of_bind_eq_ok read
    cases next? with
    | none =>
      cases afterNext
      exact ⟨[], .close (blank_of_nextItem found)⟩
    | some next =>
      obtain ⟨⟨one, behind⟩, oneRead, afterOne⟩ := of_bind_eq_ok afterNext
      obtain ⟨⟨more, final⟩, moreRead, finished⟩ := of_bind_eq_ok afterOne
      cases finished
      obtain ⟨tree, start, blank, written⟩ := reads _ _ _ oneRead
      obtain ⟨trees, others⟩ := inductionHypothesis moreRead
      have lead := (nextElement_some found).trans blank
      exact ⟨tree :: trees, .item lead written others⟩

private theorem readFields_sound {readOne : Cursor -> Except ReadError (Json × Cursor)}
    (reads : ReadsWritten readOne) {fuel : Nat} {first : Bool} {cursor after : Cursor}
    {before fields : Fields}
    (read : readFields readOne fuel first before cursor = .ok (fields, after)) :
    ∃ written, Row (Member Written) 0x7D first written cursor.rest after.advance.rest := by
  induction fuel generalizing first cursor before with
  | zero => cases read
  | succ fuel inductionHypothesis =>
    obtain ⟨next?, found, afterNext⟩ := of_bind_eq_ok read
    cases next? with
    | none =>
      cases afterNext
      exact ⟨[], .close (blank_of_nextItem found)⟩
    | some next =>
      obtain ⟨⟨key, behindKey⟩, keyRead, afterKey⟩ := of_bind_eq_ok afterNext
      obtain ⟨behindColon, colonRead, afterColon⟩ := of_bind_eq_ok afterKey
      obtain ⟨⟨one, behind⟩, oneRead, moreRead⟩ := of_bind_eq_ok afterColon
      obtain ⟨tree, start, blank, written⟩ := reads _ _ _ oneRead
      obtain ⟨others, row⟩ := inductionHypothesis moreRead
      have member : Member Written (key, tree) (0x22 :: next.rest) behind.rest :=
        .colon (readString_sound keyRead) (readColon_sound colonRead) blank written
      exact ⟨(key, tree) :: others, .item (nextKey_some found) member row⟩

/-! ## Values -/

/-- What is read as a keyword is its letters. -/
theorem keyword_sound {cursor after : Cursor} {first : Char} {letters : Text}
    (ascii : ∀ c ∈ first :: letters, c.toNat < 0x80) (peeked : cursor.peek = some first)
    (read : readKeyword letters cursor.advance = .ok after) :
    cursor.rest = Utf8.encode (first :: letters) ++ after.rest := by
  rw [Utf8.encode_of_ascii ascii, Cursor.rest_of_peek peeked, readKeyword_sound read]
  rfl

/-- A reader of values reads written values when the reader of the values inside does. -/
theorem readsWritten_step {nesting : Nat}
    (inside : ∀ inner, nesting = inner + 1 -> ReadsWritten (readValue inner)) :
    ReadsWritten (readValue nesting) := by
  intro cursor json after read
  suffices isWritten : ∃ tree, Written tree cursor.skipBlank.rest after.rest by
    obtain ⟨tree, written⟩ := isWritten
    exact ⟨tree, _, blank_skipBlank cursor, written⟩
  rw [readValue.eq_def] at read
  dsimp only at read
  generalize cursor.skipBlank = here at read
  split at read
  · cases read
  · next peeked =>
    obtain ⟨behind, letters, finished⟩ := of_bind_eq_ok read
    cases finished
    rw [keyword_sound (by simp) peeked letters]
    exact ⟨_, .null _⟩
  · next peeked =>
    obtain ⟨behind, letters, finished⟩ := of_bind_eq_ok read
    cases finished
    rw [keyword_sound (by simp) peeked letters]
    exact ⟨_, .bool true _⟩
  · next peeked =>
    obtain ⟨behind, letters, finished⟩ := of_bind_eq_ok read
    cases finished
    rw [keyword_sound (by simp) peeked letters]
    exact ⟨_, .bool false _⟩
  · next peeked =>
    obtain ⟨⟨text, behind⟩, textRead, finished⟩ := of_bind_eq_ok read
    cases finished
    rw [Cursor.rest_of_peek peeked]
    exact ⟨_, .string (readString_sound textRead)⟩
  · next peeked =>
    split at read
    · cases read
    · next inner =>
      obtain ⟨⟨items, behind⟩, itemsRead, finished⟩ := of_bind_eq_ok read
      cases finished
      obtain ⟨trees, row⟩ := readElements_sound (inside inner rfl) itemsRead
      rw [Cursor.rest_of_peek peeked]
      exact ⟨_, .array row⟩
  · next peeked =>
    split at read
    · cases read
    · next inner =>
      obtain ⟨⟨fields, behind⟩, fieldsRead, finished⟩ := of_bind_eq_ok read
      cases finished
      obtain ⟨written, row⟩ := readFields_sound (inside inner rfl) fieldsRead
      rw [Cursor.rest_of_peek peeked]
      exact ⟨_, .object row⟩
  · split at read
    · obtain ⟨⟨value, behind⟩, numberRead, finished⟩ := of_bind_eq_ok read
      cases finished
      obtain ⟨parts, numeral⟩ := readNumber_sound numberRead
      exact ⟨_, .number numeral⟩
    · cases read

/-- Whatever is read as a value is written behind blanks. -/
theorem readsWritten_readValue (nesting : Nat) : ReadsWritten (readValue nesting) := by
  induction nesting with
  | zero => exact readsWritten_step fun _ same => absurd same (Nat.succ_ne_zero _).symm
  | succ inner inductionHypothesis =>
    refine readsWritten_step fun _ same => ?_
    cases same
    exact inductionHypothesis

/-! ## Whole texts -/

theorem readWholeText_sound {α : Type} {readOne : Cursor -> Except ReadError (α × Cursor)}
    {bytes : Bytes} {value : α} (read : readWholeText readOne bytes = .ok value) :
    ∃ after, readOne (Cursor.start bytes) = .ok (value, after) ∧ Blank after.rest [] := by
  obtain ⟨⟨found, after⟩, oneRead, finished⟩ := of_bind_eq_ok read
  dsimp only at finished
  split at finished
  · next atEnd =>
    cases finished
    have blank := blank_skipBlank after
    rw [List.isEmpty_iff.1 atEnd] at blank
    exact ⟨after, oneRead, blank⟩
  · cases finished

theorem parse_sound {bytes : Bytes} {json : Json} (read : parse bytes = .ok json) :
    ∃ tree, IsText tree bytes := by
  obtain ⟨after, valueRead, behind⟩ := readWholeText_sound read
  obtain ⟨tree, start, blank, written⟩ := readsWritten_readValue _ _ _ _ valueRead
  exact ⟨tree, start, after.rest, blank, written, behind⟩

end LoginGate.Json
