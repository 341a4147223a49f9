import LoginGate.Flow.Callback
import LoginGate.Proofs.Text.Split
import LoginGate.Proofs.Url.Percent

/-!
Contract: a query that was written from pairs is read as these pairs.

Owns:
- form encoding of characters, texts and pairs, each undone by its decoder;
- pairs that are added to a URL, read behind those that it had;
- the law that code and state of a callback are read back from their query.

Does not own: queries that nobody encoded, which are read as well (`Url.Form`).

The reader takes plus signs for spaces before it decodes bytes. This does no harm, because the
encoder writes a plus sign for spaces only.
-/

namespace LoginGate

namespace Form

/-! ## Characters -/

/-- What the reader makes of a character before it decodes bytes. -/
def unplus (c : Char) : Char := if c = '+' then ' ' else c

theorem isPlain_bounds {c : Char} (plain : isPlain c = true) :
    c.toNat < 0x80 ∧ c.toNat ≠ 0x25 ∧ c ≠ '+' := by
  have below : c.toNat < 0x80 := by
    simp only [isPlain, Text.isAlphanumeric, Text.isLetter, Text.isDigit, Bool.or_eq_true,
      Bool.and_eq_true, decide_eq_true_eq, beq_iff_eq, Char.le_def, UInt32.le_iff_toNat_le] at plain
    rcases plain with (((((small | capital) | digit) | rfl) | rfl) | rfl) | rfl
    · exact Nat.lt_of_le_of_lt small.2 (by decide)
    · exact Nat.lt_of_le_of_lt capital.2 (by decide)
    · exact Nat.lt_of_le_of_lt digit.2 (by decide)
    all_goals decide
  refine ⟨below, ?_, ?_⟩
  · intro percent
    have same : c = '%' := by rw [← Char.ofNat_toNat c, percent]
    subst same
    cases plain
  · rintro rfl
    cases plain

/-- A percent-encoded byte is written in characters that stand for themselves, and the mark. -/
theorem isPlain_of_mem_encodeByte {byte : UInt8} {c : Char}
    (member : c ∈ Percent.encodeByte byte) : isPlain c = true ∨ c = '%' := by
  have plain : Percent.escapeChars.all (fun c => isPlain c || c == '%') = true := by decide
  simpa using List.all_eq_true.1 plain c (Percent.mem_escapeChars member)

private theorem unplus_of_mem_encodeByte {byte : UInt8} {c : Char}
    (member : c ∈ Percent.encodeByte byte) : unplus c = c := by
  unfold unplus
  rcases isPlain_of_mem_encodeByte member with plain | rfl
  · rw [if_neg (isPlain_bounds plain).2.2]
  · rfl

/-- Decoding undoes the encoding of a character, whatever follows. -/
theorem decode_encodeChar (c : Char) (rest : Bytes) :
    Percent.decode (Utf8.encode ((encodeChar c).map unplus) ++ rest) =
      Utf8.encodeChar c ++ Percent.decode rest := by
  unfold encodeChar
  split
  · rename_i plain
    obtain ⟨small, notPercent, notPlus⟩ := isPlain_bounds plain
    have keeps : unplus c = c := if_neg notPlus
    have byteNe : UInt8.ofNat c.toNat ≠ 0x25 := by
      intro same
      have number := congrArg UInt8.toNat same
      rw [UInt8.toNat_ofNat', Nat.mod_eq_of_lt (by omega)] at number
      exact notPercent number
    rw [List.map_singleton, keeps, Utf8.encode, List.flatMap_singleton,
      Utf8.encodeChar_of_lt small, List.singleton_append, Percent.decode_cons_of_ne byteNe]
    rfl
  split
  · rename_i space
    subst space
    exact Percent.decode_cons_of_ne (by decide) rest
  · have keeps : ((Utf8.encodeChar c).flatMap Percent.encodeByte).map unplus =
        ((Utf8.encodeChar c).flatMap Percent.encodeByte).map id := by
      apply List.map_congr_left
      intro written member
      obtain ⟨byte, -, inByte⟩ := List.mem_flatMap.1 member
      exact unplus_of_mem_encodeByte inByte
    rw [keeps, List.map_id, Percent.decode_encodeBytes]

/-! ## Texts -/

private theorem decode_encodeText (text : Text) :
    Percent.decode (Utf8.encode ((encodeText text).map unplus)) = Utf8.encode text := by
  unfold encodeText
  induction text with
  | nil => rfl
  | cons c rest inductionHypothesis =>
    rw [List.flatMap_cons, List.map_append, Utf8.encode, List.flatMap_append, ← Utf8.encode,
      decode_encodeChar, ← Utf8.encode, inductionHypothesis]
    rfl

/-- Decoding undoes the encoding of a name or value. -/
@[simp] theorem decodeText_encodeText (text : Text) : decodeText (encodeText text) = text := by
  show Utf8.decodeLossy (Percent.decode (Utf8.encode ((encodeText text).map unplus))) = text
  rw [decode_encodeText, Utf8.decodeLossy_encode]

/-- An encoded text holds no character that separates. -/
theorem isPlain_of_mem_encodeText {text : Text} {c : Char} (member : c ∈ encodeText text) :
    isPlain c = true ∨ c = '+' ∨ c = '%' := by
  obtain ⟨source, -, written⟩ := List.mem_flatMap.1 member
  unfold encodeChar at written
  split at written
  · rename_i plain
    exact .inl (List.mem_singleton.1 written ▸ plain)
  split at written
  · exact .inr (.inl (List.mem_singleton.1 written))
  · obtain ⟨byte, -, inByte⟩ := List.mem_flatMap.1 written
    rcases isPlain_of_mem_encodeByte inByte with plain | mark
    · exact .inl plain
    · exact .inr (.inr mark)

private theorem not_mem_encodeText {separator : Char}
    (separates : separator = '&' ∨ separator = '=')
    (text : Text) : separator ∉ encodeText text := by
  intro member
  have written := isPlain_of_mem_encodeText member
  rcases separates with rfl | rfl <;> revert written <;> decide

/-! ## Pairs -/

private theorem decodePair_encodePair (pair : Text × Text) :
    decodePair (encodePair pair) = pair := by
  have divided : Text.cut '=' (encodePair pair) =
      some (encodeText pair.1, encodeText pair.2) :=
    Text.cut_eq_some_iff.2 ⟨rfl, not_mem_encodeText (.inr rfl) pair.1⟩
  unfold decodePair
  simp only [divided, decodeText_encodeText]

private theorem ampersand_not_mem_encodePair (pair : Text × Text) : '&' ∉ encodePair pair := by
  have absent := not_mem_encodeText (.inl rfl)
  simp [encodePair, absent]

theorem decode_encode (pairs : Pairs) : decode (encode pairs) = pairs := by
  -- No pairs are written like one empty part, which the reader passes over.
  by_cases nothing : pairs = []
  · subst nothing
    rfl
  have parts : Text.split '&' (encode pairs) = pairs.map encodePair := by
    apply Text.split_join (by simpa using nothing)
    intro part member
    obtain ⟨pair, -, rfl⟩ := List.mem_map.1 member
    exact ampersand_not_mem_encodePair pair
  have kept : (pairs.map encodePair).filter (! ·.isEmpty) = pairs.map encodePair := by
    apply List.filter_eq_self.2
    intro part member
    obtain ⟨pair, -, rfl⟩ := List.mem_map.1 member
    simp [encodePair]
  have undone : decodePair ∘ encodePair = id := funext decodePair_encodePair
  unfold decode
  rw [parts, kept, List.map_map, undone, List.map_id]

/-- What stands before and behind an ampersand is decoded by itself. -/
theorem decode_append_ampersand (left right : Text) :
    decode (left ++ '&' :: right) = decode left ++ decode right := by
  unfold decode
  rw [Text.split_append_separator, List.filter_append, List.map_append]

end Form

/-- The pairs that a URL is asked with: those of its query, if it has one. -/
def Url.pairs (url : Url) : Form.Pairs := Form.decode (url.query.getD [])

/-- Added pairs are read behind those of the query that was there. -/
theorem Url.pairs_withPairs (url : Url) (pairs : Form.Pairs) :
    (url.withPairs pairs).pairs = url.pairs ++ pairs := by
  unfold Url.pairs withPairs
  dsimp only
  split
  · rename_i none
    rw [none, Option.getD_some, Form.decode_encode]
    rfl
  · rename_i empty
    rw [empty, Option.getD_some, Form.decode_encode]
    rfl
  · rename_i query _ given
    rw [given, Option.getD_some, Option.getD_some, Form.decode_append_ampersand, Form.decode_encode]

end LoginGate
