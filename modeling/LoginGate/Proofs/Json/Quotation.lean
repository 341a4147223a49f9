import LoginGate.Proofs.Json.Scan

/-!
Contract: the strings of a JSON text are read as they are written.

Owns:
- escapes, among them pairs of surrogates;
- the law that a string is read exactly when one is written at this place.

Does not own: how a text is written as a string (`Json.Printing`).
-/

namespace LoginGate.Json

/-! ## Escapes -/

theorem fourHex_eq_ok_iff {bytes : Bytes} {value : Nat} :
    fourHex bytes = .ok value ↔ Hex value bytes (bytes.drop 4) := by
  constructor
  · intro read
    unfold fourHex at read
    split at read
    · split at read
      · next digits =>
        cases read
        exact .four digits
      · cases read
    · cases read
  · rintro ⟨digits⟩
    rw [fourHex, digits]

private theorem of_shifted_eq_ok {α : Type} {offset : Nat} {result : Except (Cause × Nat) α}
    {value : α} (done : shifted offset result = .ok value) : result = .ok value := by
  cases result with
  | error => cases done
  | ok => exact done

private theorem unicodeEscape_sound {bytes : Bytes} {c : Char} {used : Nat}
    (read : unicodeEscape bytes = .ok (c, used)) :
    Escape c (0x75 :: bytes) (bytes.drop used) := by
  obtain ⟨first, firstRead, checked⟩ := of_bind_eq_ok read
  rw [fourHex_eq_ok_iff] at firstRead
  dsimp only at checked
  split at checked
  · cases checked
  · next notLow =>
    split at checked
    · next notHigh =>
      cases checked
      exact .scalar firstRead (by omega)
    · next high =>
      generalize behind : bytes.drop 4 = left at checked firstRead
      cases left with
      | nil => cases checked
      | cons backslash left =>
        dsimp only at checked
        split at checked
        · cases checked
        · next isBackslash =>
          cases left with
          | nil => cases checked
          | cons letter left =>
            dsimp only at checked
            split at checked
            · cases checked
            · next isLetter =>
              obtain ⟨second, secondRead, paired⟩ := of_bind_eq_ok checked
              split at paired
              · cases paired
              · next low =>
                obtain ⟨rfl, rfl⟩ := Prod.mk.inj (Except.ok.inj paired)
                rw [Classical.not_not] at isBackslash isLetter
                subst isBackslash isLetter
                have secondHex := fourHex_eq_ok_iff.1 (of_shifted_eq_ok secondRead)
                have position : bytes.drop 10 = left.drop 4 := by
                  rw [show 10 = 4 + 6 from rfl, ← List.drop_drop, behind]
                  rfl
                rw [position]
                exact .pair firstRead secondHex (by omega) (by omega)

private theorem escape_sound {bytes : Bytes} {c : Char} {used : Nat}
    (read : escape bytes = .ok (c, used)) :
    Escape c bytes (bytes.drop used) := by
  unfold escape at read
  split at read
  · cases read
  · next letter rest =>
    have number := toByte_toChar letter
    generalize Char.ofNat letter.toNat = meant at read number
    subst number
    split at read
    case h_9 =>
      cases done : unicodeEscape rest with
      | error =>
        rw [done] at read
        cases read
      | ok found =>
        obtain ⟨c, used⟩ := found
        rw [done] at read
        cases read
        rw [List.drop_succ_cons]
        exact unicodeEscape_sound done
    case h_10 => cases read
    all_goals
      cases read
      exact .short (by decide)

theorem Hex.fourHex_eq {value : Nat} {bytes rest : Bytes} (digits : Hex value bytes rest) :
    fourHex bytes = .ok value ∧ bytes.drop 4 = rest := by
  have behind : bytes.drop 4 = rest := by
    obtain ⟨_⟩ := digits
    rfl
  subst behind
  exact ⟨fourHex_eq_ok_iff.2 digits, rfl⟩

private theorem unicodeEscape_scalar {value : Nat} {bytes rest : Bytes}
    (digits : Hex value bytes rest) (scalar : value < 0xD800 ∨ 0xDFFF < value) :
    unicodeEscape bytes = .ok (Char.ofNat value, 4) := by
  rw [unicodeEscape, digits.fourHex_eq.1]
  show (if _ then _ else if _ then _ else _) = _
  rw [if_neg (by omega), if_pos (by omega)]
  rfl

private theorem unicodeEscape_pair {high low : Nat} {bytes between rest : Bytes}
    (highDigits : Hex high bytes (0x5C :: 0x75 :: between)) (lowDigits : Hex low between rest)
    (isHigh : 0xD800 ≤ high ∧ high ≤ 0xDBFF) (isLow : 0xDC00 ≤ low ∧ low ≤ 0xDFFF) :
    unicodeEscape bytes =
      .ok (Char.ofNat (0x10000 + (high - 0xD800) * 0x400 + (low - 0xDC00)), 10) := by
  rw [unicodeEscape, highDigits.fourHex_eq.1, highDigits.fourHex_eq.2]
  show (if _ then _ else if _ then _ else _) = _
  rw [if_neg (by omega), if_neg (by omega)]
  show (shifted 6 (fourHex between) >>= fun second =>
    if second < 0xDC00 ∨ 0xDFFF < second then _ else _) = _
  rw [lowDigits.fourHex_eq.1]
  show (if _ then _ else _) = _
  rw [if_neg (by omega)]
  rfl

private theorem escape_of_unicodeEscape {bytes : Bytes} {c : Char} {used : Nat}
    (read : unicodeEscape bytes = .ok (c, used)) : escape (0x75 :: bytes) = .ok (c, used + 1) := by
  show (shifted 1 (unicodeEscape bytes)).map _ = _
  rw [read]
  rfl

private theorem escape_complete {c : Char} {bytes rest : Bytes} (escaped : Escape c bytes rest) :
    ∃ used, escape bytes = .ok (c, used) ∧ bytes.drop used = rest := by
  cases escaped with
  | short known =>
    refine ⟨1, ?_, rfl⟩
    simp only [shortEscapes, List.mem_cons, List.not_mem_nil, or_false, Prod.mk.injEq] at known
    rcases known with ⟨rfl, rfl⟩ | ⟨rfl, rfl⟩ | ⟨rfl, rfl⟩ | ⟨rfl, rfl⟩ | ⟨rfl, rfl⟩ | ⟨rfl, rfl⟩ |
      ⟨rfl, rfl⟩ | ⟨rfl, rfl⟩ <;> rfl
  | scalar digits scalar =>
    have read := unicodeEscape_scalar digits scalar
    exact ⟨5, escape_of_unicodeEscape read, digits.fourHex_eq.2⟩
  | pair highDigits lowDigits isHigh isLow =>
    have read := unicodeEscape_pair highDigits lowDigits isHigh isLow
    refine ⟨11, escape_of_unicodeEscape read, ?_⟩
    rw [List.drop_succ_cons, show 10 = 4 + 6 from rfl, ← List.drop_drop, highDigits.fourHex_eq.2]
    exact lowDigits.fourHex_eq.2

/-! ## Strings -/

private theorem stringBytes_sound {line column : Nat} {decoded bytes out : Bytes} {after : Cursor}
    (read : stringBytes line column decoded bytes = .ok (out, after)) :
    ∃ meant, Inside meant bytes after.rest ∧ out = decoded.reverse ++ meant := by
  fun_induction stringBytes line column decoded bytes with
  | case1 => cases read
  | case2 column decoded rest =>
    cases read
    exact ⟨[], .close _, (List.append_nil _).symm⟩
  | case3 => cases read
  | case4 column decoded rest c used escaped _ inductionHypothesis =>
    obtain ⟨meant, inside, rfl⟩ := inductionHypothesis read
    refine ⟨_, .escape (escape_sound escaped) inside, ?_⟩
    rw [List.reverse_append, List.reverse_reverse, List.append_assoc]
  | case5 => cases read
  | case6 column decoded byte rest notQuote notBackslash notControl inductionHypothesis =>
    obtain ⟨meant, inside, rfl⟩ := inductionHypothesis read
    refine ⟨_, .byte notQuote notBackslash notControl inside, ?_⟩
    rw [List.reverse_cons, List.append_assoc, List.singleton_append]

private theorem stringBytes_complete {meant bytes rest : Bytes} (inside : Inside meant bytes rest)
    (line column : Nat) (decoded : Bytes) :
    ∃ after, stringBytes line column decoded bytes = .ok (decoded.reverse ++ meant, after) ∧
      after.rest = rest := by
  induction inside generalizing line column decoded with
  | close rest =>
    rw [stringBytes, if_pos rfl, List.append_nil]
    exact ⟨_, rfl, rfl⟩
  | byte notQuote notBackslash notControl _ inductionHypothesis =>
    rw [stringBytes, if_neg notQuote, if_neg notBackslash, if_neg notControl]
    obtain ⟨after, read, left⟩ := inductionHypothesis line (column + 1) (_ :: decoded)
    rw [List.reverse_cons, List.append_assoc, List.singleton_append] at read
    exact ⟨after, read, left⟩
  | escape escaped _ inductionHypothesis =>
    obtain ⟨used, escapeRead, behind⟩ := escape_complete escaped
    rw [stringBytes, if_neg (by decide), if_pos rfl, escapeRead]
    dsimp only
    rw [behind]
    obtain ⟨after, read, left⟩ :=
      inductionHypothesis line (column + 1 + used) ((Utf8.encodeChar _).reverse ++ decoded)
    rw [List.reverse_append, List.reverse_reverse, List.append_assoc] at read
    exact ⟨after, read, left⟩

theorem readString_sound {cursor after : Cursor} {text : Text}
    (read : readString cursor = .ok (text, after)) :
    Quoted text (0x22 :: cursor.rest) after.rest := by
  obtain ⟨⟨bytes, behind⟩, bytesRead, decoded⟩ := of_bind_eq_ok read
  obtain ⟨meant, inside, rfl⟩ := stringBytes_sound bytesRead
  dsimp only at decoded
  split at decoded
  · next found =>
    cases decoded
    exact .quotes inside found
  · cases decoded

theorem readString_complete {text : Text} (cursor : Cursor) {rest : Bytes}
    (quoted : Quoted text (0x22 :: cursor.rest) rest) :
    Yields (readString cursor) (some text) rest := by
  obtain ⟨inside, decoded⟩ := quoted
  obtain ⟨after, read, left⟩ := stringBytes_complete inside cursor.line cursor.column []
  refine ⟨after, ?_, left⟩
  rw [List.reverse_nil, List.nil_append] at read
  rw [readString, read, ok_bind]
  dsimp only
  rw [decoded]
  rfl

end LoginGate.Json
