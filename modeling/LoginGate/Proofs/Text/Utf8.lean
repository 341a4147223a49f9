import LoginGate.Text.Utf8

/-!
Contract: a text that was encoded is read back.

Owns:
- what is checked number by number for every byte;
- what the first byte of a character announces, by the number of bytes;
- the law that the bytes of a character are divided off as this character, whatever follows;
- the law that a character at the end is divided off too, whatever bytes stand before it;
- the law that both decoders undo the encoder.

Does not own: what else bytes that encode no text are divided into.
-/

namespace LoginGate

/-- A reader that reads a list item by item has read each of them. -/
theorem exists_mem_of_mapM_eq_some {α β : Type} {f : α -> Option β} {items : List α}
    {results : List β} (mapped : items.mapM f = some results) {item : α} (member : item ∈ items) :
    ∃ result ∈ results, f item = some result := by
  induction items generalizing results with
  | nil => cases member
  | cons first rest inductionHypothesis =>
    simp only [List.mapM_cons, Option.pure_def, Option.bind_eq_bind, Option.bind_eq_some_iff,
      Option.some.injEq] at mapped
    obtain ⟨result, done, others, mappedRest, rfl⟩ := mapped
    rcases List.mem_cons.1 member with rfl | later
    · exact ⟨result, List.mem_cons_self, done⟩
    · obtain ⟨other, found, same⟩ := inductionHypothesis mappedRest later
      exact ⟨other, List.mem_cons_of_mem _ found, same⟩

/-- Each result is read from one of the items. -/
theorem exists_source_of_mapM_eq_some {α β : Type} {f : α -> Option β} {items : List α}
    {results : List β} (mapped : items.mapM f = some results) {result : β}
    (member : result ∈ results) : ∃ item ∈ items, f item = some result := by
  induction items generalizing results with
  | nil =>
    cases mapped
    cases member
  | cons first rest inductionHypothesis =>
    simp only [List.mapM_cons, Option.pure_def, Option.bind_eq_bind, Option.bind_eq_some_iff,
      Option.some.injEq] at mapped
    obtain ⟨firstResult, done, others, mappedRest, rfl⟩ := mapped
    rcases List.mem_cons.1 member with rfl | later
    · exact ⟨first, List.mem_cons_self, done⟩
    · obtain ⟨item, found, same⟩ := inductionHypothesis mappedRest later
      exact ⟨item, List.mem_cons_of_mem _ found, same⟩

namespace Utf8

/-- What holds of the numbers below 256 holds of every byte. -/
theorem forall_byte {P : UInt8 -> Prop} (every : ∀ n, n < 256 -> P (UInt8.ofNat n)) :
    ∀ byte, P byte := by
  intro byte
  have number := every byte.toNat byte.toNat_lt
  rwa [UInt8.ofNat_toNat] at number

/-! ## First bytes -/

private theorem lead?_one {k : Nat} (small : k < 0x80) :
    lead? (UInt8.ofNat k) = some (0, 0, 0, k) := by
  have every : ∀ k, k < 0x80 -> lead? (UInt8.ofNat k) = some (0, 0, 0, k) := by
    decide +kernel
  exact every k small

private theorem lead?_two {k : Nat} (atLeast : 2 ≤ k) (small : k < 32) :
    lead? (UInt8.ofNat (k + 0xC0)) = some (1, 0x80, 0xBF, k) := by
  have every : ∀ k, k < 30 ->
      lead? (UInt8.ofNat (k + 2 + 0xC0)) = some (1, 0x80, 0xBF, k + 2) := by
    decide +kernel
  have shifted := every (k - 2) (by omega)
  rwa [Nat.sub_add_cancel atLeast] at shifted

/-- The bytes after the first keep out overlong forms and surrogates. -/
theorem lead?_three {k : Nat} (small : k < 16) :
    lead? (UInt8.ofNat (k + 0xE0)) =
      some (2, if k = 0 then 0xA0 else 0x80, if k = 13 then 0x9F else 0xBF, k) := by
  have every : ∀ k, k < 16 -> lead? (UInt8.ofNat (k + 0xE0)) =
      some (2, if k = 0 then 0xA0 else 0x80, if k = 13 then 0x9F else 0xBF, k) := by
    decide +kernel
  exact every k small

/-- They keep out overlong forms and numbers above the last code point. -/
theorem lead?_four {k : Nat} (small : k < 5) :
    lead? (UInt8.ofNat (k + 0xF0)) =
      some (3, if k = 0 then 0x90 else 0x80, if k = 4 then 0x8F else 0xBF, k) := by
  have every : ∀ k, k < 5 -> lead? (UInt8.ofNat (k + 0xF0)) =
      some (3, if k = 0 then 0x90 else 0x80, if k = 4 then 0x8F else 0xBF, k) := by
    decide +kernel
  exact every k small

/-! ## Continuation bytes -/

private theorem continuation_zero (low high : UInt8) (value : Nat) (rest : Bytes) :
    continuation 0 low high value rest = (some value, [], rest) := by
  rw [continuation]

/-- A continuation byte within its range adds six bits. -/
theorem continuation_succ {missing : Nat} {low high : UInt8} {value k : Nat} {rest after : Bytes}
    {found : Option Nat} {used : Bytes} (small : k < 64)
    (inRange : low.toNat ≤ k + 0x80 ∧ k + 0x80 ≤ high.toNat)
    (goesOn : continuation missing 0x80 0xBF (value * 64 + k) rest = (found, used, after)) :
    continuation (missing + 1) low high value (UInt8.ofNat (k + 0x80) :: rest) =
      (found, UInt8.ofNat (k + 0x80) :: used, after) := by
  have number : (UInt8.ofNat (k + 0x80)).toNat = k + 0x80 := by
    rw [UInt8.toNat_ofNat']
    omega
  have inside : low ≤ UInt8.ofNat (k + 0x80) ∧ UInt8.ofNat (k + 0x80) ≤ high := by
    rw [UInt8.le_iff_toNat_le, UInt8.le_iff_toNat_le, number]
    exact inRange
  rw [continuation, if_pos inside, number, Nat.add_sub_cancel, goesOn]

/-! ## Characters -/

/-- A character in ASCII is one byte. -/
theorem encodeChar_of_lt {c : Char} (small : c.toNat < 0x80) :
    encodeChar c = [UInt8.ofNat c.toNat] := by
  have within : c.val.toNat ≤ 0x7F := Nat.le_of_lt_succ small
  unfold encodeChar String.utf8EncodeChar
  dsimp only
  rw [if_pos within]
  rfl

theorem encode_append (left right : Text) : encode (left ++ right) = encode left ++ encode right :=
  List.flatMap_append

theorem encode_cons (c : Char) (text : Text) : encode (c :: text) = encodeChar c ++ encode text :=
  List.flatMap_cons

theorem encode_singleton (c : Char) : encode [c] = encodeChar c :=
  List.flatMap_singleton _ _

theorem encode_of_ascii {text : Text} (ascii : ∀ c ∈ text, c.toNat < 0x80) :
    encode text = text.map fun c => UInt8.ofNat c.toNat := by
  unfold encode
  induction text with
  | nil => rfl
  | cons c rest inductionHypothesis =>
    rw [List.flatMap_cons, encodeChar_of_lt (ascii c List.mem_cons_self), List.map_cons,
      inductionHypothesis fun d member => ascii d (List.mem_cons_of_mem _ member)]
    rfl

/-- Text in ASCII takes one byte for each character. -/
theorem length_encode {text : Text} (ascii : ∀ c ∈ text, c.toNat < 0x80) :
    (encode text).length = text.length := by
  rw [encode_of_ascii ascii, List.length_map]

private theorem pieces_of_continuation {byte : UInt8} {rest : Bytes} {missing : Nat}
    {low high : UInt8} {value scalar : Nat} {used after : Bytes}
    (announced : lead? byte = some (missing, low, high, value))
    (continued : continuation missing low high value rest = (some scalar, used, after)) :
    pieces (byte :: rest) = .char (Char.ofNat scalar) :: pieces after := by
  rw [pieces, announced]
  simp only [continued]

private theorem mem_continuation {k : Nat} (small : k < 64) :
    (0x80 : UInt8).toNat ≤ k + 0x80 ∧ k + 0x80 ≤ (0xBF : UInt8).toNat := by
  have top : (0xBF : UInt8).toNat = 63 + 0x80 := rfl
  have bottom : (0x80 : UInt8).toNat = 0x80 := rfl
  omega

private theorem pieces_two {n : Nat} (atLeast : 0x80 ≤ n) (below : n < 0x800) (rest : Bytes) :
    pieces (UInt8.ofNat (n / 64 % 32 + 0xC0) :: UInt8.ofNat (n % 64 + 0x80) :: rest) =
      .char (Char.ofNat n) :: pieces rest := by
  have first := lead?_two (k := n / 64 % 32) (by omega) (by omega)
  have second := continuation_succ (by omega) (mem_continuation (k := n % 64) (by omega))
    (continuation_zero _ _ (n / 64 % 32 * 64 + n % 64) rest)
  have whole : n / 64 % 32 * 64 + n % 64 = n := by omega
  rw [whole] at second
  exact pieces_of_continuation first second

private theorem pieces_three {n : Nat} (atLeast : 0x800 ≤ n) (below : n < 0x10000)
    (scalar : n < 0xD800 ∨ 0xDFFF < n) (rest : Bytes) :
    pieces (UInt8.ofNat (n / 4096 % 16 + 0xE0) :: UInt8.ofNat (n / 64 % 64 + 0x80) ::
      UInt8.ofNat (n % 64 + 0x80) :: rest) = .char (Char.ofNat n) :: pieces rest := by
  have first := lead?_three (k := n / 4096 % 16) (by omega)
  have inRange : (if n / 4096 % 16 = 0 then (0xA0 : UInt8) else 0x80).toNat ≤ n / 64 % 64 + 0x80 ∧
      n / 64 % 64 + 0x80 ≤ (if n / 4096 % 16 = 13 then (0x9F : UInt8) else 0xBF).toNat := by
    have plain := mem_continuation (k := n / 64 % 64) (by omega)
    have low : (0xA0 : UInt8).toNat = 0xA0 := rfl
    have high : (0x9F : UInt8).toNat = 0x9F := rfl
    constructor <;> split <;> omega
  have third := continuation_succ (by omega) (mem_continuation (k := n % 64) (by omega))
    (continuation_zero _ _ ((n / 4096 % 16 * 64 + n / 64 % 64) * 64 + n % 64) rest)
  have second := continuation_succ (by omega) inRange third
  have whole : (n / 4096 % 16 * 64 + n / 64 % 64) * 64 + n % 64 = n := by omega
  rw [whole] at second
  exact pieces_of_continuation first second

private theorem pieces_four {n : Nat} (atLeast : 0x10000 ≤ n) (below : n < 0x110000)
    (rest : Bytes) :
    pieces (UInt8.ofNat (n / 262144 % 8 + 0xF0) :: UInt8.ofNat (n / 4096 % 64 + 0x80) ::
      UInt8.ofNat (n / 64 % 64 + 0x80) :: UInt8.ofNat (n % 64 + 0x80) :: rest) =
      .char (Char.ofNat n) :: pieces rest := by
  have first := lead?_four (k := n / 262144 % 8) (by omega)
  have inRange :
      (if n / 262144 % 8 = 0 then (0x90 : UInt8) else 0x80).toNat ≤ n / 4096 % 64 + 0x80 ∧
      n / 4096 % 64 + 0x80 ≤ (if n / 262144 % 8 = 4 then (0x8F : UInt8) else 0xBF).toNat := by
    have plain := mem_continuation (k := n / 4096 % 64) (by omega)
    have low : (0x90 : UInt8).toNat = 0x90 := rfl
    have high : (0x8F : UInt8).toNat = 0x8F := rfl
    constructor <;> split <;> omega
  -- The law of one byte takes what the bytes behind it give, so the last byte comes first.
  have fourth := continuation_succ (by omega) (mem_continuation (k := n % 64) (by omega))
    (continuation_zero _ _
      (((n / 262144 % 8 * 64 + n / 4096 % 64) * 64 + n / 64 % 64) * 64 + n % 64) rest)
  have third := continuation_succ (by omega)
    (mem_continuation (k := n / 64 % 64) (by omega)) fourth
  have second := continuation_succ (by omega) inRange third
  have whole :
      ((n / 262144 % 8 * 64 + n / 4096 % 64) * 64 + n / 64 % 64) * 64 + n % 64 = n := by
    omega
  rw [whole] at second
  exact pieces_of_continuation first second

/-- The bytes of a character are divided off as this character, whatever follows. -/
theorem pieces_encodeChar (c : Char) (rest : Bytes) :
    pieces (encodeChar c ++ rest) = .char c :: pieces rest := by
  have valid : c.toNat < 0xD800 ∨ 0xDFFF < c.toNat ∧ c.toNat < 0x110000 := c.valid
  have restored : Char.ofNat c.toNat = c := Char.ofNat_toNat c
  have value : c.val.toNat = c.toNat := rfl
  unfold encodeChar String.utf8EncodeChar
  rw [value]
  dsimp only
  generalize c.toNat = n at valid restored
  subst restored
  split
  · exact pieces_of_continuation (lead?_one (by omega)) (continuation_zero _ _ _ _)
  split
  · exact pieces_two (by omega) (by omega) rest
  split
  · exact pieces_three (by omega) (by omega) (by omega) rest
  · exact pieces_four (by omega) (by omega) rest

/-! ## A character at the end -/

/-- No byte that begins a character continues another. -/
theorem exists_encodeChar_eq (c : Char) :
    ∃ first rest, encodeChar c = first :: rest ∧ ¬ (0x80 ≤ first ∧ first ≤ 0xBF) := by
  have bound : c.val.toNat < 0x110000 := by
    have valid : c.val.toNat < 0xD800 ∨ 0xDFFF < c.val.toNat ∧ c.val.toNat < 0x110000 := c.valid
    omega
  have edges : (0x80 : UInt8).toNat = 0x80 ∧ (0xBF : UInt8).toNat = 0xBF := by decide
  unfold encodeChar String.utf8EncodeChar
  dsimp only
  -- The first byte has a form of its own for each length.
  repeat' split
  all_goals
    refine ⟨_, _, rfl, ?_⟩
    rw [UInt8.le_iff_toNat_le, UInt8.le_iff_toNat_le, UInt8.toNat_ofNat']
    omega

private theorem continuation_append {stop : UInt8} (stops : ¬ (0x80 ≤ stop ∧ stop ≤ 0xBF))
    {missing : Nat} {low high : UInt8} (inner : missing = 0 ∨ 0x80 ≤ low ∧ high ≤ 0xBF)
    (value : Nat) (bytes behind : Bytes) :
    ∃ left, (continuation missing low high value (bytes ++ stop :: behind)).2.2 =
      left ++ stop :: behind := by
  induction missing generalizing low high value bytes with
  | zero => exact ⟨bytes, by rw [continuation_zero]⟩
  | succ missing inductionHypothesis =>
    have range := inner.resolve_left (Nat.succ_ne_zero missing)
    cases bytes with
    | nil =>
      have outside : ¬ (low ≤ stop ∧ stop ≤ high) := fun inside =>
        stops ⟨UInt8.le_trans range.1 inside.1, UInt8.le_trans inside.2 range.2⟩
      refine ⟨[], ?_⟩
      rw [List.nil_append, continuation, if_neg outside]
    | cons byte bytes =>
      rw [List.cons_append, continuation]
      split
      · exact inductionHypothesis (.inr ⟨UInt8.le_refl _, UInt8.le_refl _⟩) _ bytes
      · exact ⟨byte :: bytes, rfl⟩

private theorem range_of_lead? {byte low high : UInt8} {missing value : Nat}
    (announced : lead? byte = some (missing, low, high, value)) :
    missing = 0 ∨ 0x80 ≤ low ∧ high ≤ 0xBF := by
  have every : ∀ byte, (lead? byte).all (fun (missing, low, high, _) =>
      missing == 0 || (decide (0x80 ≤ low) && decide (high ≤ 0xBF))) = true :=
    forall_byte (by decide +kernel)
  have inRange := every byte
  rw [announced] at inRange
  simpa using inRange

/-- Outside ASCII a character has no byte of ASCII. -/
theorem forall_mem_encodeChar {c : Char} (outside : 128 ≤ c.toNat) :
    ∀ byte ∈ encodeChar c, 0x80 ≤ byte := by
  have bound : c.val.toNat < 0x110000 := by
    have valid : c.val.toNat < 0xD800 ∨ 0xDFFF < c.val.toNat ∧ c.val.toNat < 0x110000 := c.valid
    omega
  have above : ¬ c.val.toNat ≤ 0x7F := Nat.not_le.2 outside
  have edge : (0x80 : UInt8).toNat = 0x80 := rfl
  unfold encodeChar String.utf8EncodeChar
  dsimp only
  rw [if_neg above]
  repeat' split
  all_goals
    simp only [List.mem_cons, List.not_mem_nil, or_false, forall_eq_or_imp, forall_eq,
      UInt8.le_iff_toNat_le, UInt8.toNat_ofNat', edge]
    omega

/-- A character at the end is divided off as this character, whatever stands before it. -/
theorem mem_pieces_append (bytes : Bytes) (c : Char) :
    .char c ∈ pieces (bytes ++ encodeChar c) := by
  obtain ⟨first, rest, shape, stops⟩ := exists_encodeChar_eq c
  -- What one piece leaves is a suffix of unknown length, so the induction is on the length.
  induction size : bytes.length using Nat.strongRecOn generalizing bytes with
  | ind size inductionHypothesis =>
    subst size
    cases bytes with
    | nil =>
      have alone := pieces_encodeChar c []
      rw [List.append_nil] at alone
      rw [List.nil_append, alone]
      exact List.mem_cons_self
    | cons byte bytes =>
      rw [List.cons_append, pieces]
      cases announced : lead? byte with
      | none =>
        exact List.mem_cons_of_mem _ (inductionHypothesis _ (by simp) bytes rfl)
      | some range =>
        obtain ⟨missing, low, high, value⟩ := range
        obtain ⟨left, kept⟩ := continuation_append stops (range_of_lead? announced) value bytes rest
        have shorter := length_continuation_le missing low high value (bytes ++ first :: rest)
        rw [kept, List.length_append, List.length_append] at shorter
        dsimp only
        rw [shape, kept, ← shape]
        refine List.mem_cons_of_mem _ (inductionHypothesis left.length ?_ left rfl)
        simp only [List.length_cons]
        omega

/-- Bytes that decode to a text hold no more characters than it. -/
theorem mem_of_decode? {bytes : Bytes} {text : Text} {c : Char} (decoded : decode? bytes = some text)
    (member : .char c ∈ pieces bytes) : c ∈ text := by
  obtain ⟨result, inText, read⟩ := exists_mem_of_mapM_eq_some decoded member
  cases read
  exact inText

/-! ## Whole texts -/

/-- What was encoded is divided into its characters. -/
theorem pieces_encode (text : Text) : pieces (encode text) = text.map .char := by
  unfold encode
  induction text with
  | nil =>
    rw [List.flatMap_nil, pieces]
    rfl
  | cons c rest inductionHypothesis =>
    rw [List.flatMap_cons, pieces_encodeChar, inductionHypothesis]
    rfl

theorem decode?_encode (text : Text) : decode? (encode text) = some text := by
  unfold decode?
  rw [pieces_encode]
  induction text with
  | nil => rfl
  | cons c rest inductionHypothesis =>
    rw [List.map_cons, List.mapM_cons, inductionHypothesis]
    rfl

/-- Decoding undoes encoding. -/
@[simp] theorem decodeLossy_encode (text : Text) : decodeLossy (encode text) = text := by
  unfold decodeLossy
  rw [pieces_encode, List.map_map]
  exact List.map_id text

end Utf8
end LoginGate
