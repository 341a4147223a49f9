import LoginGate.Proofs.Json.Meaning
import LoginGate.Proofs.Json.Scan

/-!
Contract: the text of a plain JSON value is written by the grammar and means this value.

Owns:
- the strings, integers and rows that are printed, as written forms;
- the law that the text of a plain value is a written form with this value.

Does not own: floating-point numbers, whose text is shortened.
-/

namespace LoginGate.Json

/-! ## Strings -/

theorem Inside.run {run meant bytes rest : Bytes} (others : Inside meant bytes rest)
    (unescaped : ∀ byte ∈ run, byte ≠ 0x22 ∧ byte ≠ 0x5C ∧ ¬ byte < 0x20) :
    Inside (run ++ meant) (run ++ bytes) rest := by
  induction run with
  | nil => exact others
  | cons byte run inductionHypothesis =>
    rw [List.forall_mem_cons] at unescaped
    obtain ⟨notQuote, notBackslash, notControl⟩ := unescaped.1
    exact .byte notQuote notBackslash notControl (inductionHypothesis unescaped.2)

/-- A character that is printed as it is has no byte that needs an escape. -/
theorem unescaped_encodeChar {c : Char} (notQuote : c ≠ '"') (notBackslash : c ≠ '\\')
    (notControl : ¬ c.toNat < 0x20) :
    ∀ byte ∈ Utf8.encodeChar c, byte ≠ 0x22 ∧ byte ≠ 0x5C ∧ ¬ byte < 0x20 := by
  intro byte member
  by_cases ascii : c.toNat < 0x80
  · rw [Utf8.encodeChar_of_lt ascii, List.mem_singleton] at member
    have back := toChar_toByte ascii
    rw [← member] at back
    refine ⟨fun quote => notQuote ?_, fun backslash => notBackslash ?_, fun control => ?_⟩
    · rw [← back, quote]
      rfl
    · rw [← back, backslash]
      rfl
    · rw [UInt8.lt_iff_toNat_lt, member, UInt8.toNat_ofNat', Nat.mod_eq_of_lt (by omega)] at control
      exact notControl control
  · have high := UInt8.le_iff_toNat_le.1
      (Utf8.forall_mem_encodeChar (Nat.le_of_not_lt ascii) byte member)
    refine ⟨?_, ?_, fun control => ?_⟩
    · rintro rfl
      exact absurd high (by decide)
    · rintro rfl
      exact absurd high (by decide)
    · exact absurd (Nat.lt_of_le_of_lt high (UInt8.lt_iff_toNat_lt.1 control)) (by decide)

/-- A control character is printed by four hexadecimal digits. -/
theorem escape_control {c : Char} (control : c.toNat < 0x20) (rest : Bytes) :
    Escape c (0x75 :: (Utf8.encode (Text.padZeros 4 (Text.hexOfNat c.toNat)) ++ rest)) rest := by
  have every : ∀ n, n < 0x20 ->
      (Text.padZeros 4 (Text.hexOfNat n)).length = 4 ∧
      (Text.padZeros 4 (Text.hexOfNat n)).all (·.toNat < 0x80) = true ∧
      Text.digitsValue? 16 (Text.padZeros 4 (Text.hexOfNat n)) = some n := by
    decide
  obtain ⟨length, allAscii, value⟩ := every _ control
  have ascii := fun c member => of_decide_eq_true (List.all_eq_true.1 allAscii c member)
  rw [Utf8.encode_of_ascii ascii]
  generalize Text.padZeros 4 (Text.hexOfNat c.toNat) = digits at length ascii value
  obtain ⟨first, second, third, fourth, rfl⟩ :
      ∃ first second third fourth, digits = [first, second, third, fourth] :=
    match digits, length with
    | [first, second, third, fourth], _ => ⟨first, second, third, fourth, rfl⟩
  have named : ([first, second, third, fourth].map fun c => UInt8.ofNat c.toNat).map
      (fun byte => Char.ofNat byte.toNat) = [first, second, third, fourth] := by
    rw [List.map_map]
    refine (List.map_congr_left fun c member => ?_).trans (List.map_id _)
    exact toChar_toByte (ascii c member)
  have hex : Hex c.toNat (([first, second, third, fourth].map fun c => UInt8.ofNat c.toNat) ++ rest)
      rest := .four ((congrArg _ named).trans value)
  have escape := Escape.scalar hex (by omega)
  rwa [Char.ofNat_toNat] at escape

theorem Inside.escapeChar {c : Char} {meant bytes rest : Bytes} (others : Inside meant bytes rest) :
    Inside (Utf8.encodeChar c ++ meant) (Utf8.encode (escapeChar c) ++ bytes) rest := by
  have short (letter : UInt8) {c : Char} (known : (letter, c) ∈ shortEscapes) :
      Inside (Utf8.encodeChar c ++ meant) (0x5C :: letter :: bytes) rest :=
    .escape (.short known) others
  unfold Json.escapeChar
  split
  · next same => exact same ▸ short 0x22 (by decide)
  split
  · next same => exact same ▸ short 0x5C (by decide)
  split
  · next same =>
    rw [← Char.ofNat_toNat c, same]
    exact short 0x62 (by decide)
  split
  · next same => exact same ▸ short 0x74 (by decide)
  split
  · next same => exact same ▸ short 0x6E (by decide)
  split
  · next same =>
    rw [← Char.ofNat_toNat c, same]
    exact short 0x66 (by decide)
  split
  · next same => exact same ▸ short 0x72 (by decide)
  split
  · next control =>
    have digits := escape_control control bytes
    rw [Utf8.encode_append, List.append_assoc]
    exact .escape digits others
  · next notQuote notBackslash _ _ _ _ _ notControl =>
    rw [Utf8.encode_singleton]
    exact others.run (unescaped_encodeChar notQuote notBackslash notControl)

private theorem quoted_written (text : Text) (rest : Bytes) :
    Quoted text (Utf8.encode (quoted text) ++ rest) rest := by
  have inside : Inside (Utf8.encode text)
      (Utf8.encode (text.flatMap escapeChar) ++ 0x22 :: rest) rest := by
    induction text with
    | nil => exact .close rest
    | cons c others inductionHypothesis =>
      rw [List.flatMap_cons, Utf8.encode_append, Utf8.encode_cons, List.append_assoc]
      exact inductionHypothesis.escapeChar
  have shape : Utf8.encode (quoted text) ++ rest =
      0x22 :: (Utf8.encode (text.flatMap escapeChar) ++ 0x22 :: rest) := by
    rw [quoted, Utf8.encode_append, List.append_assoc]
    rfl
  rw [shape]
  exact .quotes inside (Utf8.decode?_encode text)

/-! ## Integers -/

/-- An integer is printed as a plain number. -/
theorem exists_numeral {value : Int}
    (inRange : Word.minSigned64 ≤ value ∧ value ≤ Word.maxUnsigned64) (rest : Bytes) :
    ∃ parts : NumberParts, Numeral parts (Utf8.encode (Text.ofInt value) ++ rest) rest ∧
      parts.value? = some (.integer value) := by
  cases value with
  | ofNat n =>
    have named : Nat.ofDigitChars 10 (Text.ofNat n) 0 = n :=
      Nat.ofDigitChars_toDigits (by decide) (by decide)
    have integer : NumberParts.integer ⟨false, Text.ofNat n, none, none⟩ = n := by
      rw [NumberParts.integer, named]
      rfl
    have plain : NumberParts.IsPlain ⟨false, Text.ofNat n, none, none⟩ :=
      ⟨rfl, rfl, nofun, integer ▸ inRange⟩
    refine ⟨⟨false, Text.ofNat n, none, none⟩,
      .parts (.absent _) (Text.isWhole_ofNat n) (.absent _) (.absent _), ?_⟩
    rw [plain.value?_eq, integer]
    rfl
  | negSucc n =>
    have named : Nat.ofDigitChars 10 (Text.ofNat (n + 1)) 0 = n + 1 :=
      Nat.ofDigitChars_toDigits (by decide) (by decide)
    have integer : NumberParts.integer ⟨true, Text.ofNat (n + 1), none, none⟩ = .negSucc n := by
      rw [NumberParts.integer, named]
      rfl
    have plain : NumberParts.IsPlain ⟨true, Text.ofNat (n + 1), none, none⟩ :=
      ⟨rfl, rfl, fun _ => by rw [integer]; exact Int.negSucc_ne_zero n, integer ▸ inRange⟩
    refine ⟨⟨true, Text.ofNat (n + 1), none, none⟩,
      .parts (.present _) (Text.isWhole_ofNat (n + 1)) (.absent _) (.absent _), ?_⟩
    rw [plain.value?_eq, integer]

/-! ## Rows -/

theorem Row.behind_comma {α : Type} {One : α -> Bytes -> Bytes -> Prop} {closing : UInt8} {item : α}
    {items : List α} {bytes rest : Bytes} (row : Row One closing true (item :: items) bytes rest) :
    Row One closing false (item :: items) (0x2C :: bytes) rest := by
  cases row with
  | item lead here others =>
    cases lead with
    | first blank => exact .item (.comma (.none _) blank) here others

private theorem join_cons_cons (first second : Text) (parts : List Text) :
    Text.join [','] (first :: second :: parts) =
      first ++ ',' :: Text.join [','] (second :: parts) :=
  List.append_assoc first [','] _

/-- Items that are written by their texts, with commas between the texts, make a row. -/
theorem exists_row {α β : Type} {One : α -> Bytes -> Bytes -> Prop} {value : α -> Option β}
    {text : β -> Text} (closing : UInt8) {items : List β}
    (each : ∀ item ∈ items, ∀ rest, ∃ one,
      One one (Utf8.encode (text item) ++ rest) rest ∧ value one = some item) (rest : Bytes) :
    ∃ ones, Row One closing true ones
      (Utf8.encode (Text.join [','] (items.map text)) ++ closing :: rest) rest ∧
      ones.mapM value = some items := by
  induction items with
  | nil => exact ⟨[], .close (.none _), rfl⟩
  | cons item items inductionHypothesis =>
    rw [List.forall_mem_cons] at each
    obtain ⟨ones, others, values⟩ := inductionHypothesis each.2
    cases items with
    | nil =>
      obtain ⟨one, written, itemValue⟩ := each.1 (closing :: rest)
      refine ⟨[one], .item (.first (.none _)) written (.close (.none _)), ?_⟩
      rw [List.mapM_cons, itemValue]
      rfl
    | cons next more =>
      cases ones with
      | nil => cases values
      | cons another ones =>
        obtain ⟨one, written, itemValue⟩ := each.1
          (0x2C :: (Utf8.encode (Text.join [','] ((next :: more).map text)) ++ closing :: rest))
        refine ⟨one :: another :: ones, .item (.first (.none _)) ?_ others.behind_comma, ?_⟩
        · rw [List.map_cons, List.map_cons, join_cons_cons, Utf8.encode_append, List.append_assoc]
          exact written
        · rw [List.mapM_cons, itemValue, values]
          rfl

/-! ## Values -/

private theorem renderItems_eq_join (items : List Json) :
    renderItems items = Text.join [','] (items.map render) := by
  induction items with
  | nil => rfl
  | cons item items inductionHypothesis =>
    cases items with
    | nil => rfl
    | cons next more =>
      rw [renderItems, inductionHypothesis]
      · exact (join_cons_cons (render item) _ _).symm
      · exact List.cons_ne_nil next more

def renderField (field : Text × Json) : Text := quoted field.1 ++ ':' :: render field.2

private theorem renderFields_eq_join (fields : Fields) :
    renderFields fields = Text.join [','] (fields.map renderField) := by
  induction fields with
  | nil => rfl
  | cons field fields inductionHypothesis =>
    cases fields with
    | nil => rfl
    | cons next more =>
      rw [renderFields, inductionHypothesis]
      · exact (join_cons_cons (renderField field) _ _).symm
      · exact List.cons_ne_nil next more

/-- A field is a member of its object when its value is written. -/
theorem exists_member {nesting : Nat} {field : Text × Json} {rest : Bytes}
    (inside : ∃ tree, Written tree (Utf8.encode field.2.render ++ rest) rest ∧
      tree.value? nesting = some field.2) :
    ∃ written, Member Written written (Utf8.encode (renderField field) ++ rest) rest ∧
      (written.2.value? nesting).map (written.1, ·) = some field := by
  obtain ⟨tree, written, value⟩ := inside
  refine ⟨(field.1, tree), ?_, by rw [value]; rfl⟩
  rw [renderField, Utf8.encode_append, List.append_assoc]
  exact .colon (quoted_written field.1 _) (.none _) (.none _) written

/-- The text of a plain value is a written form with this value. -/
theorem exists_written {nesting : Nat} {json : Json} (plain : IsPlain nesting json) (rest : Bytes) :
    ∃ tree, Written tree (Utf8.encode json.render ++ rest) rest ∧
      tree.value? nesting = some json := by
  induction plain generalizing rest with
  | null nesting => exact ⟨.null, .null rest, Tree.value?.eq_1 nesting⟩
  | bool nesting value =>
    refine ⟨.bool value, ?_, Tree.value?.eq_2 nesting value⟩
    have written := Written.bool value rest
    cases value <;> exact written
  | integer nesting inRange =>
    obtain ⟨parts, numeral, value⟩ := exists_numeral inRange rest
    refine ⟨.number parts, .number numeral, ?_⟩
    rw [Tree.value?, value]
    rfl
  | string nesting text =>
    exact ⟨.string text, .string (quoted_written text rest), Tree.value?.eq_4 nesting text⟩
  | @array nesting items _ inductionHypothesis =>
    obtain ⟨trees, row, values⟩ := exists_row 0x5D inductionHypothesis rest
    refine ⟨.array trees, ?_, by rw [Tree.value?, values]; rfl⟩
    rw [render, renderItems_eq_join, Utf8.encode_append, List.append_assoc]
    exact .array row
  | @object nesting fields distinct _ inductionHypothesis =>
    obtain ⟨written, row, values⟩ := exists_row 0x7D
      (fun field member rest => exists_member (inductionHypothesis field member rest)) rest
    refine ⟨.object written, ?_, ?_⟩
    · rw [render, renderFields_eq_join, Utf8.encode_append, List.append_assoc]
      exact .object row
    · rw [Tree.value?, values, Option.map_some, collect_of_nodup distinct]

end LoginGate.Json
