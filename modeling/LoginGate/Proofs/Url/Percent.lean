import LoginGate.Proofs.Text.Utf8
import LoginGate.Url.Percent

/-!
Contract: percent-encoding and -decoding, of a byte and of a text with something behind it.

Owns:
- the characters of an encoded byte, and the law that it is decoded again;
- the law that an encoded text grows with the text;
- the law that bytes outside ASCII stay as they are and complete no escape before them.

Does not own: what the characters of a class are encoded for.
-/

namespace LoginGate.Percent

/-! ## Bytes -/

def escapeChars : Text := "%0123456789ABCDEF".toList

theorem mem_escapeChars {byte : UInt8} {c : Char} (member : c ∈ encodeByte byte) :
    c ∈ escapeChars := by
  have every : ∀ byte, (encodeByte byte).all escapeChars.contains = true :=
    Utf8.forall_byte (by decide +kernel)
  simpa using List.all_eq_true.1 (every byte) c member

def digitByte (n : Nat) : UInt8 := UInt8.ofNat (if n < 10 then n + 0x30 else n + 0x37)

private theorem encode_encodeByte : ∀ byte, Utf8.encode (encodeByte byte) =
    [0x25, digitByte (byte.toNat / 16), digitByte (byte.toNat % 16)] :=
  Utf8.forall_byte (by decide +kernel)

private theorem hexByte?_digitByte : ∀ byte : UInt8,
    hexByte? (digitByte (byte.toNat / 16)) (digitByte (byte.toNat % 16)) = some byte :=
  Utf8.forall_byte (by decide +kernel)

private theorem decode_encodeByte (byte : UInt8) (rest : Bytes) :
    decode (Utf8.encode (encodeByte byte) ++ rest) = byte :: decode rest := by
  rw [encode_encodeByte]
  show decode (0x25 :: digitByte _ :: digitByte _ :: rest) = _
  rw [decode, if_pos rfl]
  simp only [hexByte?_digitByte]

theorem decode_encodeBytes (bytes rest : Bytes) :
    decode (Utf8.encode (bytes.flatMap encodeByte) ++ rest) = bytes ++ decode rest := by
  induction bytes with
  | nil => rfl
  | cons byte bytes inductionHypothesis =>
    rw [List.flatMap_cons, Utf8.encode, List.flatMap_append, List.append_assoc]
    rw [← Utf8.encode, decode_encodeByte, ← Utf8.encode, inductionHypothesis]
    rfl

theorem decode_cons_of_ne {byte : UInt8} (plain : byte ≠ 0x25) (rest : Bytes) :
    decode (byte :: rest) = byte :: decode rest := by
  conv => lhs; unfold decode
  exact if_neg plain

/-! ## Texts -/

theorem encode_append (encoded : Char -> Bool) (text tail : Text) :
    encode encoded (text ++ tail) = encode encoded text ++ encode encoded tail :=
  List.flatMap_append

theorem length_le_length_encode (encoded : Char -> Bool) (text : Text) :
    text.length ≤ (encode encoded text).length := by
  unfold encode
  induction text with
  | nil => exact Nat.le_refl 0
  | cons c rest inductionHypothesis =>
    have written : 1 ≤ (if encoded c = true then (Utf8.encodeChar c).flatMap encodeByte
        else [c]).length := by
      split
      · obtain ⟨first, others, shape, -⟩ := Utf8.exists_encodeChar_eq c
        rw [shape]
        simp [encodeByte]
      · exact Nat.le_refl 1
    rw [List.flatMap_cons, List.length_append, List.length_cons]
    omega

theorem encode_append_ne {tail : Text} (filled : tail ≠ []) (encoded : Char -> Bool) (text : Text) :
    encode encoded (text ++ tail) ≠ encode encoded text := by
  intro same
  rw [encode_append, List.append_right_eq_self] at same
  have long := length_le_length_encode encoded tail
  rw [same] at long
  exact filled (List.eq_nil_of_length_eq_zero (Nat.le_zero.1 long))

private theorem hexByte?_eq_none {high low : UInt8} (outside : 0x80 ≤ high ∨ 0x80 ≤ low) :
    hexByte? high low = none := by
  have noDigit : ∀ byte : UInt8, 0x80 ≤ byte ->
      Text.digitValue? 16 (Char.ofNat byte.toNat) = none :=
    Utf8.forall_byte (by decide +kernel)
  unfold hexByte?
  rcases outside with high | low
  · rw [noDigit _ high]
    rfl
  · rw [noDigit _ low]
    simp

/-- Without percent signs there is nothing to decode. -/
theorem decode_eq_self {bytes : Bytes} (missing : 0x25 ∉ bytes) : decode bytes = bytes := by
  induction bytes with
  | nil => rfl
  | cons byte rest inductionHypothesis =>
    rw [List.mem_cons, not_or] at missing
    rw [decode_cons_of_ne (Ne.symm missing.1), inductionHypothesis missing.2]

section Decode

variable {tail : Bytes} (outside : ∀ byte ∈ tail, 0x80 ≤ byte)
include outside

private theorem percent_not_mem : 0x25 ∉ tail :=
  fun member => absurd (outside 0x25 member) (by decide)

/-- Bytes outside ASCII complete no escape. -/
theorem decode_cons_tail (byte : UInt8) : decode (byte :: tail) = byte :: tail := by
  by_cases percent : byte = 0x25
  · subst percent
    rcases tail with - | ⟨high, - | ⟨low, rest⟩⟩
    · rfl
    · rfl
    · rw [decode, if_pos rfl]
      simp only [hexByte?_eq_none (.inl (outside high List.mem_cons_self))]
      rw [decode_eq_self (percent_not_mem outside)]
  · rw [decode_cons_of_ne percent, decode_eq_self (percent_not_mem outside)]

theorem decode_append (bytes : Bytes) : decode (bytes ++ tail) = decode bytes ++ tail := by
  fun_induction decode bytes with
  | case1 => exact decode_eq_self (percent_not_mem outside)
  | case2 high low rest byte found inductionHypothesis =>
    rw [List.cons_append, List.cons_append, List.cons_append, decode, if_pos rfl]
    simp only [found]
    rw [inductionHypothesis, List.cons_append]
  | case3 high low rest missing inductionHypothesis =>
    rw [List.cons_append, List.cons_append, List.cons_append, decode, if_pos rfl]
    simp only [missing]
    rw [← List.cons_append, ← List.cons_append, inductionHypothesis, List.cons_append]
  | case4 rest short =>
    rcases rest with - | ⟨only, - | ⟨low, others⟩⟩
    · exact decode_cons_tail outside _
    · rcases tail with - | ⟨low, behind⟩
      · rfl
      · have after := decode_cons_tail outside only
        rw [List.cons_append, List.cons_append, List.nil_append, decode, if_pos rfl]
        simp only [hexByte?_eq_none (.inr (outside low List.mem_cons_self))]
        rw [after]
    · exact absurd rfl (short only low others)
  | case5 first rest plain inductionHypothesis =>
    rw [List.cons_append, decode_cons_of_ne plain, inductionHypothesis, List.cons_append]

end Decode
end LoginGate.Percent
