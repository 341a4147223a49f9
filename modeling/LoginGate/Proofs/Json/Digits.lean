import LoginGate.Proofs.Json.Scan

/-!
Contract: the numbers of a JSON text are read as they are written.

Owns:
- runs of digits, which end where no digit follows;
- the law that a number is read exactly when one is written at this place, and that all of it is
  read when what stands behind it may stand behind a value.

Does not own: the value of a number (`Json.Meaning`).
-/

namespace LoginGate.Json

/-! ## Runs of digits -/

def Stops (kind : UInt8 -> Bool) (bytes : Bytes) : Prop := ∀ byte ∈ bytes.head?, kind byte = false

theorem Stops.peek_ne {kind : UInt8 -> Bool} {cursor : Cursor} (stops : Stops kind cursor.rest)
    {c : Char} (isKind : kind (UInt8.ofNat c.toNat) = true) : cursor.peek ≠ some c := by
  intro peeked
  have other := stops _ (congrArg List.head? (Cursor.rest_of_peek peeked))
  rw [isKind] at other
  cases other

theorem isDigit_of_isDigitByte {byte : UInt8} (digit : isDigitByte byte = true) :
    Text.isDigit (Char.ofNat byte.toNat) = true := by
  rw [Text.isDigit_iff, toNat_toChar]
  exact isDigitByte_iff.1 digit

/-- Only a digit comes next where digits are written. -/
theorem peek_ne_of_isDigits {digits : Text} {cursor : Cursor} {rest : Bytes}
    (isDigits : Text.IsDigits digits) (shape : cursor.rest = Utf8.encode digits ++ rest) {c : Char}
    (noDigit : isDigitByte (UInt8.ofNat c.toNat) = false) : cursor.peek ≠ some c := by
  intro peeked
  have sameShape := Cursor.rest_of_peek peeked
  obtain ⟨byte, more, digitsShape, digit⟩ := exists_cons_of_isDigits isDigits
  rw [shape, digitsShape] at sameShape
  rw [(List.cons.inj sameShape).1, noDigit] at digit
  cases digit

private theorem readDigits_eq (cursor : Cursor) :
    readDigits cursor =
      ((cursor.rest.takeWhile isDigitByte).map fun byte => Char.ofNat byte.toNat,
        cursor.advanceBy (cursor.rest.takeWhile isDigitByte).length) := rfl

private theorem readDigits_sound {cursor after : Cursor} {digits : Text}
    (read : readDigits cursor = (digits, after)) :
    (∀ c ∈ digits, Text.isDigit c = true) ∧ cursor.rest = Utf8.encode digits ++ after.rest := by
  rw [readDigits_eq] at read
  obtain ⟨rfl, rfl⟩ := Prod.mk.inj read
  have prefixBytes : cursor.rest.takeWhile isDigitByte <+: cursor.rest :=
    List.takeWhile_prefix isDigitByte
  have digitBytes : ∀ byte ∈ cursor.rest.takeWhile isDigitByte, isDigitByte byte = true :=
    List.all_eq_true.1 List.all_takeWhile
  rw [Cursor.rest_advanceBy]
  generalize cursor.rest.takeWhile isDigitByte = run at prefixBytes digitBytes
  have allDigits : ∀ c ∈ run.map fun byte => Char.ofNat byte.toNat, Text.isDigit c = true := by
    intro c member
    obtain ⟨byte, isByte, rfl⟩ := List.mem_map.1 member
    exact isDigit_of_isDigitByte (digitBytes byte isByte)
  refine ⟨allDigits, ?_⟩
  have back : Utf8.encode (run.map fun byte => Char.ofNat byte.toNat) = run := by
    rw [encode_of_isDigit allDigits, List.map_map]
    exact List.map_id'' toByte_toChar run
  rw [back]
  exact (List.prefix_iff_eq_append.1 prefixBytes).symm

private theorem readDigits_complete (cursor : Cursor) {digits : Text} {rest : Bytes}
    (allDigits : ∀ c ∈ digits, Text.isDigit c = true)
    (shape : cursor.rest = Utf8.encode digits ++ rest) (stops : Stops isDigitByte rest) :
    ∃ after, readDigits cursor = (digits, after) ∧ after.rest = rest := by
  rw [encode_of_isDigit allDigits] at shape
  have run : cursor.rest.takeWhile isDigitByte = digits.map fun c => UInt8.ofNat c.toNat := by
    rw [shape, List.takeWhile_append_of_pos]
    · cases rest with
      | nil => rw [List.takeWhile_nil, List.append_nil]
      | cons byte more =>
        rw [List.takeWhile_cons_of_neg, List.append_nil]
        rw [stops byte rfl]
        exact Bool.false_ne_true
    · intro byte member
      obtain ⟨c, isDigit, rfl⟩ := List.mem_map.1 member
      exact isDigitByte_of_isDigit (allDigits c isDigit)
  have back : (digits.map fun c => UInt8.ofNat c.toNat).map (fun byte => Char.ofNat byte.toNat) =
      digits := by
    rw [List.map_map]
    refine (List.map_congr_left fun c member => ?_).trans (List.map_id digits)
    exact toChar_toByte (Text.toNat_lt_of_isDigit (allDigits c member))
  rw [readDigits_eq, run, back]
  exact ⟨_, rfl, by rw [Cursor.rest_advanceBy, shape, List.drop_left]⟩

/-! ## The parts of a number -/

private theorem readWhole_sound {cursor after : Cursor} {whole : Text}
    (read : readWhole cursor = .ok (whole, after)) :
    Text.IsWhole whole ∧ cursor.rest = Utf8.encode whole ++ after.rest := by
  unfold readWhole at read
  split at read
  · cases read
  · next c peeked =>
    have shape := Cursor.rest_of_peek peeked
    split at read
    · next zero =>
      subst zero
      dsimp only at read
      split at read
      · cases read
      · cases read
        refine ⟨⟨⟨List.cons_ne_nil _ _, List.forall_mem_singleton.2 rfl⟩, fun _ => rfl⟩, ?_⟩
        exact shape
    · next notZero =>
      split at read
      · next digit =>
        have run := Except.ok.inj read
        obtain ⟨allDigits, digitsShape⟩ := readDigits_sound run
        rw [readDigits_eq, shape, List.takeWhile_cons_of_pos (isDigitByte_of_isDigit digit),
          List.map_cons, toChar_toByte (Text.toNat_lt_of_isDigit digit)] at run
        obtain ⟨rfl, -⟩ := Prod.mk.inj run
        refine ⟨⟨⟨List.cons_ne_nil _ _, allDigits⟩, fun head => ?_⟩, digitsShape⟩
        exact absurd (Option.some.inj head) notZero
      · cases read

private theorem readWhole_complete {cursor : Cursor} {whole : Text} {rest : Bytes}
    (isWhole : Text.IsWhole whole) (shape : cursor.rest = Utf8.encode whole ++ rest)
    (stops : Stops isDigitByte rest) : Yields (readWhole cursor) (some whole) rest := by
  obtain ⟨⟨notEmpty, allDigits⟩, leading⟩ := isWhole
  obtain ⟨after, run, left⟩ := readDigits_complete cursor allDigits shape stops
  cases whole with
  | nil => exact absurd rfl notEmpty
  | cons c more =>
    have digit := allDigits c List.mem_cons_self
    rw [encode_of_isDigit allDigits, List.map_cons, List.cons_append] at shape
    have peeked := Cursor.peek_of_rest shape
    rw [toChar_toByte (Text.toNat_lt_of_isDigit digit)] at peeked
    rw [readWhole, peeked]
    dsimp only
    split
    · next zero =>
      obtain rfl : more = [] := (List.cons.inj (leading (congrArg some zero))).2
      subst zero
      have behind : cursor.advance.rest = rest := by
        rw [Cursor.rest_advance, shape]
        rfl
      have noDigit : ¬ (cursor.advance.peek.map Text.isDigit).getD false = true := by
        cases peeked : cursor.advance.peek with
        | none => exact Bool.false_ne_true
        | some next =>
          intro nextDigit
          exact (behind ▸ stops).peek_ne (isDigitByte_of_isDigit nextDigit) peeked
      rw [if_neg noDigit]
      exact .ok behind
    · rw [run]
      exact .ok left

private theorem readFraction_sound {cursor after : Cursor} {fraction : Option Text}
    (read : readFraction cursor = .ok (fraction, after)) :
    Fraction fraction cursor.rest after.rest := by
  unfold readFraction at read
  split at read
  · next point =>
    generalize run : readDigits cursor.advance = found at read
    obtain ⟨digits, behind⟩ := found
    obtain ⟨allDigits, digitsShape⟩ := readDigits_sound run
    dsimp only at read
    split at read
    · cases read
    · next notEmpty =>
      cases read
      rw [Cursor.rest_of_peek point, digitsShape]
      exact .present _ ⟨fun empty => notEmpty (List.isEmpty_iff.2 empty), allDigits⟩
  · cases read
    exact .absent _

private theorem readFraction_complete {cursor : Cursor} {fraction : Option Text} {rest : Bytes}
    (written : Fraction fraction cursor.rest rest) (stops : Stops isDigitByte rest)
    (noPoint : Stops (· == 0x2E) rest) : Yields (readFraction cursor) (some fraction) rest := by
  generalize shape : cursor.rest = bytes at written
  cases written with
  | absent =>
    rw [readFraction, if_neg ((shape ▸ noPoint).peek_ne rfl)]
    exact .ok shape
  | present _ isDigits =>
    obtain ⟨after, run, left⟩ := readDigits_complete cursor.advance isDigits.2
      (Cursor.rest_advance_of_cons shape) stops
    have point : cursor.peek = some '.' := Cursor.peek_of_rest shape
    rw [readFraction, if_pos point, run]
    dsimp only
    rw [if_neg (by simpa using isDigits.1)]
    exact .ok left

def signAt (signed : Cursor) : Bool × Cursor :=
  match signed.peek with
  | some '+' => (false, signed.advance)
  | some '-' => (true, signed.advance)
  | _ => (false, signed)

private theorem signAt_sound (signed : Cursor) :
    Sign (signAt signed).1 signed.rest (signAt signed).2.rest := by
  unfold signAt
  split
  · next plus =>
    rw [Cursor.rest_of_peek plus]
    exact .plus _
  · next minus =>
    rw [Cursor.rest_of_peek minus]
    exact .minus (.present _)
  · exact .minus (.absent _)

private theorem signAt_complete (signed : Cursor) {negative : Bool} {digits : Text} {rest : Bytes}
    (sign : Sign negative signed.rest (Utf8.encode digits ++ rest))
    (isDigits : Text.IsDigits digits) :
    ∃ after, signAt signed = (negative, after) ∧ after.rest = Utf8.encode digits ++ rest := by
  generalize shape : signed.rest = bytes at sign
  unfold signAt
  cases sign with
  | plus =>
    have plus : signed.peek = some '+' := Cursor.peek_of_rest shape
    rw [plus]
    exact ⟨_, rfl, Cursor.rest_advance_of_cons shape⟩
  | minus minus =>
    cases minus with
    | present =>
      have minus : signed.peek = some '-' := Cursor.peek_of_rest shape
      rw [minus]
      exact ⟨_, rfl, Cursor.rest_advance_of_cons shape⟩
    | absent =>
      split
      · next plus => exact absurd plus (peek_ne_of_isDigits isDigits shape rfl)
      · next minus => exact absurd minus (peek_ne_of_isDigits isDigits shape rfl)
      · exact ⟨signed, rfl, shape⟩

private theorem readExponent_eq (cursor : Cursor) :
    readExponent cursor =
      if cursor.peek = some 'e' ∨ cursor.peek = some 'E' then
        let (down, digitsAt) := signAt cursor.advance
        let (digits, after) := readDigits digitsAt
        if digits.isEmpty then
          if digitsAt.peek.isNone then .error (digitsAt.errorHere .endInValue)
          else .error (digitsAt.errorNext .invalidNumber)
        else .ok (some (down, digits), after)
      else .ok (none, cursor) := rfl

private theorem readExponent_sound {cursor after : Cursor} {exponent : Option (Bool × Text)}
    (read : readExponent cursor = .ok (exponent, after)) :
    Exponent exponent cursor.rest after.rest := by
  rw [readExponent_eq] at read
  split at read
  · next mark =>
    have sign := signAt_sound cursor.advance
    obtain ⟨allDigits, digitsShape⟩ :=
      readDigits_sound (rfl : readDigits (signAt cursor.advance).2 = (_, _))
    dsimp only at read
    split at read
    · split at read <;> cases read
    · next notEmpty =>
      cases read
      rw [digitsShape] at sign
      have isDigits : Text.IsDigits (readDigits (signAt cursor.advance).2).1 :=
        ⟨fun empty => notEmpty (List.isEmpty_iff.2 empty), allDigits⟩
      rcases mark with small | capital
      · rw [Cursor.rest_of_peek small]
        exact .present (.inl rfl) sign isDigits
      · rw [Cursor.rest_of_peek capital]
        exact .present (.inr rfl) sign isDigits
  · cases read
    exact .absent _

def isMarkByte (byte : UInt8) : Bool := byte == 0x65 || byte == 0x45

private theorem readExponent_complete {cursor : Cursor} {exponent : Option (Bool × Text)}
    {rest : Bytes} (written : Exponent exponent cursor.rest rest) (stops : Stops isDigitByte rest)
    (noMark : Stops isMarkByte rest) : Yields (readExponent cursor) (some exponent) rest := by
  generalize shape : cursor.rest = bytes at written
  rw [readExponent_eq]
  cases written with
  | absent =>
    rw [if_neg]
    · exact .ok shape
    · rintro (small | capital)
      · exact (shape ▸ noMark).peek_ne rfl small
      · exact (shape ▸ noMark).peek_ne rfl capital
  | @present mark _ _ _ _ isMark sign isDigits =>
    have marked : cursor.peek = some 'e' ∨ cursor.peek = some 'E' := by
      have peeked := Cursor.peek_of_rest shape
      rcases isMark with rfl | rfl
      · exact .inl peeked
      · exact .inr peeked
    obtain ⟨digitsAt, signRead, digitsShape⟩ := signAt_complete cursor.advance
      ((Cursor.rest_advance_of_cons shape).symm ▸ sign) isDigits
    obtain ⟨after, run, left⟩ := readDigits_complete digitsAt isDigits.2 digitsShape stops
    rw [if_pos marked, signRead]
    dsimp only
    rw [run]
    dsimp only
    rw [if_neg (by simpa using isDigits.1)]
    exact .ok left

/-! ## Numbers -/

theorem readNumber_sound {cursor after : Cursor} {value : Number}
    (read : readNumber cursor = .ok (value, after)) :
    ∃ parts, Numeral parts cursor.rest after.rest := by
  obtain ⟨⟨whole, behindWhole⟩, wholeRead, afterWhole⟩ := of_bind_eq_ok read
  obtain ⟨⟨fraction, behindFraction⟩, fractionRead, afterFraction⟩ := of_bind_eq_ok afterWhole
  obtain ⟨⟨exponent, behindExponent⟩, exponentRead, finished⟩ := of_bind_eq_ok afterFraction
  obtain ⟨isWhole, wholeShape⟩ := readWhole_sound wholeRead
  obtain rfl : behindExponent = after := by
    dsimp only at finished
    split at finished
    · exact (Prod.mk.inj (Except.ok.inj finished)).2
    · cases finished
  have minus : Minus (decide (cursor.peek = some '-')) cursor.rest
      (Utf8.encode whole ++ behindWhole.rest) := by
    rw [← wholeShape]
    split
    · next present =>
      rw [decide_eq_true present, Cursor.rest_of_peek present]
      exact .present _
    · next absent =>
      rw [decide_eq_false absent]
      exact .absent _
  exact ⟨⟨_, whole, fraction, exponent⟩,
    .parts minus isWhole (readFraction_sound fractionRead) (readExponent_sound exponentRead)⟩

theorem Minus.peek_eq {negative : Bool} {digits : Text} {cursor : Cursor} {rest : Bytes}
    (minus : Minus negative cursor.rest (Utf8.encode digits ++ rest))
    (isDigits : Text.IsDigits digits) :
    decide (cursor.peek = some '-') = negative ∧
      (if cursor.peek = some '-' then cursor.advance else cursor).rest =
        Utf8.encode digits ++ rest := by
  generalize shape : cursor.rest = bytes at minus
  cases minus with
  | present =>
    have present : cursor.peek = some '-' := Cursor.peek_of_rest shape
    rw [if_pos present, decide_eq_true present, Cursor.rest_advance, shape]
    exact ⟨rfl, rfl⟩
  | absent =>
    have noMinus : cursor.peek ≠ some '-' := peek_ne_of_isDigits isDigits shape rfl
    rw [if_neg noMinus, decide_eq_false noMinus]
    exact ⟨rfl, shape⟩

theorem Ends.stops {kind : UInt8 -> Bool} {rest : Bytes} (ends : Ends rest)
    (other : ∀ byte ∈ [0x20, 0x0A, 0x09, 0x0D, 0x2C, 0x5D, 0x7D], kind byte = false) :
    Stops kind rest :=
  fun byte head => other byte (isEndByte_iff.1 (ends byte head))

theorem Exponent.stops {kind : UInt8 -> Bool} {exponent : Option (Bool × Text)}
    {bytes rest : Bytes} (written : Exponent exponent bytes rest) (stops : Stops kind rest)
    (noMark : ∀ byte ∈ [0x65, 0x45], kind byte = false) : Stops kind bytes := by
  cases written with
  | absent => exact stops
  | present isMark =>
    intro byte head
    cases head
    exact noMark _ (by simpa using isMark)

theorem Fraction.stops {kind : UInt8 -> Bool} {digits : Option Text} {bytes rest : Bytes}
    (written : Fraction digits bytes rest) (stops : Stops kind rest)
    (noPoint : kind 0x2E = false) : Stops kind bytes := by
  cases written with
  | absent => exact stops
  | present =>
    intro byte head
    cases head
    exact noPoint

/-- A number is read to its end when what stands behind it may stand behind a value. -/
theorem readNumber_complete {parts : NumberParts} {cursor : Cursor} {rest : Bytes}
    (numeral : Numeral parts cursor.rest rest) (ends : Ends rest) :
    Yields (readNumber cursor) parts.value? rest := by
  obtain ⟨minus, isWhole, fraction, exponent⟩ := numeral
  have restNoDigit : Stops isDigitByte rest := ends.stops (by simp [isDigitByte])
  have restNoMark : Stops isMarkByte rest := ends.stops (by simp [isMarkByte])
  have restNoPoint : Stops (· == 0x2E) rest := ends.stops (by simp)
  have noDigit := exponent.stops restNoDigit (by simp [isDigitByte])
  have noPoint := exponent.stops restNoPoint (by simp)
  have wholeNoDigit := fraction.stops noDigit rfl
  obtain ⟨sameSign, digitsShape⟩ := minus.peek_eq isWhole.1
  obtain ⟨behindWhole, wholeRead, wholeLeft⟩ := readWhole_complete isWhole digitsShape wholeNoDigit
  obtain ⟨behindFraction, fractionRead, fractionLeft⟩ :=
    readFraction_complete (wholeLeft ▸ fraction) noDigit noPoint
  obtain ⟨behindExponent, exponentRead, exponentLeft⟩ :=
    readExponent_complete (fractionLeft ▸ exponent) restNoDigit restNoMark
  rw [readNumber, wholeRead, ok_bind]
  dsimp only
  rw [fractionRead, ok_bind]
  dsimp only
  rw [exponentRead, ok_bind]
  dsimp only
  rw [sameSign]
  cases parts.value? with
  | none => exact ⟨_, rfl⟩
  | some value => exact .ok exponentLeft

end LoginGate.Json
