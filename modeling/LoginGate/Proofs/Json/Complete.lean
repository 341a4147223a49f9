import LoginGate.Proofs.Json.Digits
import LoginGate.Proofs.Json.Meaning
import LoginGate.Proofs.Json.Quotation

/-!
Contract: whatever is written as a JSON value is read as what it means.

Owns:
- the steps between the items of an array and the fields of an object;
- the law that a written value is read to its end and gives its value, or fails when it has none.

Does not own: the law that nothing else is read (`Json.Sound`).

The induction is on the levels of nesting that are left. What is inside a value is a row of items,
and the loop over it is by induction on the row; a row has more bytes than items, so the fuel of the
loop is enough.
-/

namespace LoginGate.Json

/-! ## Steps between items -/

/-- An item comes at once when it is the first, and else behind a comma. -/
theorem Lead.reached {first : Bool} {cursor : Cursor} {byte : UInt8} {more : Bytes}
    (lead : Lead first cursor.rest (byte :: more)) (notBlank : isBlankByte byte = false) :
    (first = true ∧ cursor.skipBlank.rest = byte :: more) ∨
      (first = false ∧ cursor.skipBlank.peek = some ',' ∧
        cursor.skipBlank.advance.skipBlank.rest = byte :: more) := by
  generalize shape : cursor.rest = bytes at lead
  cases lead with
  | first blank => exact .inl ⟨rfl, (shape ▸ blank).rest_skipBlank notBlank⟩
  | comma before blank =>
    have atComma := (shape ▸ before).rest_skipBlank rfl
    refine .inr ⟨rfl, Cursor.peek_of_rest atComma, Blank.rest_skipBlank ?_ notBlank⟩
    rw [Cursor.rest_advance_of_cons atComma]
    exact blank

private theorem nextItem_close (closing : Char) {ended : Cause}
    {start : Char -> Cursor -> Except ReadError Cursor} {cursor : Cursor} {byte : UInt8}
    {rest : Bytes} (blank : Blank cursor.rest (byte :: rest))
    (notBlank : isBlankByte byte = false) (closes : Char.ofNat byte.toNat = closing) :
    nextItem closing ended start cursor = .ok none ∧ cursor.skipBlank.rest = byte :: rest := by
  have shape := blank.rest_skipBlank notBlank
  refine ⟨nextItem_eq_none_iff.2 ?_, shape⟩
  rw [Cursor.peek_of_rest shape, closes]

private theorem nextElement_item {first : Bool} {tree : Tree} {cursor : Cursor}
    {start behind : Bytes}
    (lead : Lead first cursor.rest start) (written : Written tree start behind) :
    ∃ next, nextElement first cursor = .ok (some next) ∧ next.rest = start := by
  obtain ⟨byte, more, rfl, notBlank, notClosing⟩ := written.exists_cons
  have notBracket {cursor : Cursor} (shape : cursor.rest = byte :: more) :
      cursor.peek ≠ some ']' := by
    intro peeked
    have sameShape := Cursor.rest_of_peek peeked
    rw [shape] at sameShape
    exact notClosing (List.cons.inj sameShape).1
  obtain ⟨rfl, here⟩ | ⟨rfl, comma, here⟩ := lead.reached notBlank
  · have peeked := Cursor.peek_of_rest here
    have other := notBracket here
    rw [peeked] at other
    exact ⟨_, nextItem_eq_some_iff.2 ⟨_, peeked, fun same => other (congrArg some same), rfl⟩, here⟩
  · refine ⟨_, nextItem_eq_some_iff.2 ⟨',', comma, by decide, ?_⟩, here⟩
    rw [elementStart, if_neg Bool.false_ne_true, if_pos rfl]
    dsimp only
    split
    · next bracket => exact absurd bracket (notBracket here)
    · rfl
    · next atEnd =>
      rw [Cursor.peek_of_rest here] at atEnd
      cases atEnd

private theorem nextKey_item {first : Bool} {cursor : Cursor} {behind : Bytes}
    (lead : Lead first cursor.rest (0x22 :: behind)) :
    ∃ next, nextKey first cursor = .ok (some next) ∧ next.rest = behind := by
  obtain ⟨rfl, here⟩ | ⟨rfl, comma, here⟩ := lead.reached rfl
  · have quote : cursor.skipBlank.peek = some '"' := Cursor.peek_of_rest here
    refine ⟨_, nextItem_eq_some_iff.2 ⟨'"', quote, by decide, ?_⟩, Cursor.rest_advance_of_cons here⟩
    simp only [keyStart, if_true, quote]
    rfl
  · have quote : cursor.skipBlank.advance.skipBlank.peek = some '"' := Cursor.peek_of_rest here
    refine ⟨_, nextItem_eq_some_iff.2 ⟨',', comma, by decide, ?_⟩, Cursor.rest_advance_of_cons here⟩
    simp only [keyStart, Bool.false_eq_true, if_false, quote]
    rfl

private theorem readColon_complete {cursor : Cursor} {behind : Bytes}
    (blank : Blank cursor.rest (0x3A :: behind)) :
    ∃ next, readColon cursor = .ok next ∧ next.rest = behind := by
  have here := blank.rest_skipBlank rfl
  have colon : cursor.skipBlank.peek = some ':' := Cursor.peek_of_rest here
  rw [readColon, colon]
  exact ⟨_, rfl, Cursor.rest_advance_of_cons here⟩

/-! ## Loops -/

/-- The loop over an array reads the row of its elements. -/
theorem readElements_complete {α : Type} {readOne : Cursor -> Except ReadError (α × Cursor)}
    {value : Tree -> Option α} {first : Bool} {items : List Tree} {bytes rest : Bytes}
    (row : Row Written 0x5D first items bytes rest)
    (reads : ∀ item ∈ items, ∀ cursor rest, Written item cursor.rest rest -> Ends rest ->
      Yields (readOne cursor) (value item) rest)
    (fuel : Nat) (enough : items.length < fuel) (cursor : Cursor) (shape : cursor.rest = bytes) :
    Yields (readElements readOne fuel first cursor) (items.mapM value) (0x5D :: rest) := by
  induction row generalizing fuel cursor with
  | close blank =>
    obtain ⟨fuel, rfl⟩ := Nat.exists_eq_succ_of_ne_zero (Nat.ne_of_gt enough)
    obtain ⟨atEnd, left⟩ := nextItem_close ']' (shape ▸ blank) rfl rfl
    rw [readElements, nextElement, atEnd, ok_bind]
    exact .ok left
  | item lead here others inductionHypothesis =>
    obtain ⟨fuel, rfl⟩ := Nat.exists_eq_succ_of_ne_zero (Nat.ne_of_gt (Nat.zero_lt_of_lt enough))
    obtain ⟨next, found, start⟩ := nextElement_item (shape ▸ lead) here
    rw [readElements, found, ok_bind, List.mapM_cons]
    refine (reads _ List.mem_cons_self next _ (start ▸ here) (others.ends rfl)).bind ?_
    intro one behind _ left
    refine (inductionHypothesis (fun item member => reads item (List.mem_cons_of_mem _ member))
      fuel (Nat.lt_of_succ_lt_succ enough) behind left).bind ?_
    intro more final _ finalLeft
    exact .ok finalLeft

/-- The fields after a first written field, and then after the others. -/
theorem mapM_foldl_cons (value : Tree -> Option Json) (field : Text × Tree)
    (others : List (Text × Tree)) (fields : Fields) :
    (((field :: others).mapM fun field => (value field.2).map (field.1, ·)).map fun values =>
      values.foldl (fun fields field => insert field.1 field.2 fields) fields) =
    (value field.2).bind fun one =>
      (others.mapM fun field => (value field.2).map (field.1, ·)).map fun values =>
        values.foldl (fun fields field => insert field.1 field.2 fields)
          (insert field.1 one fields) := by
  rw [List.mapM_cons]
  cases value field.2 with
  | none => rfl
  | some one =>
    cases (others.mapM fun field => (value field.2).map (field.1, ·) : Option Fields) with
    | none => rfl
    | some values => rfl

/-- The loop over an object reads the row of its fields and sets one key after the other. -/
theorem readFields_complete {readOne : Cursor -> Except ReadError (Json × Cursor)}
    {value : Tree -> Option Json} {first : Bool} {written : List (Text × Tree)} {bytes rest : Bytes}
    (row : Row (Member Written) 0x7D first written bytes rest)
    (reads : ∀ field ∈ written, ∀ cursor start rest, Blank cursor.rest start ->
      Written field.2 start rest -> Ends rest -> Yields (readOne cursor) (value field.2) rest)
    (fuel : Nat) (enough : written.length < fuel) (cursor : Cursor) (shape : cursor.rest = bytes)
    (fields : Fields) :
    Yields (readFields readOne fuel first fields cursor)
      ((written.mapM fun field => (value field.2).map (field.1, ·)).map fun values =>
        values.foldl (fun fields field => insert field.1 field.2 fields) fields)
      (0x7D :: rest) := by
  induction row generalizing fuel cursor fields with
  | close blank =>
    obtain ⟨fuel, rfl⟩ := Nat.exists_eq_succ_of_ne_zero (Nat.ne_of_gt enough)
    obtain ⟨atEnd, left⟩ := nextItem_close '\x7d' (shape ▸ blank) rfl rfl
    rw [readFields, nextKey, atEnd, ok_bind]
    exact .ok left
  | item lead here others inductionHypothesis =>
    obtain ⟨fuel, rfl⟩ := Nat.exists_eq_succ_of_ne_zero (Nat.ne_of_gt (Nat.zero_lt_of_lt enough))
    obtain @⟨key, tree, _, _, _, _, _, ⟨inside, decoded⟩, before, blank, written⟩ := here
    obtain ⟨next, found, quote⟩ := nextKey_item (shape ▸ lead)
    obtain ⟨behindKey, keyRead, keyLeft⟩ :=
      readString_complete next (.quotes (quote ▸ inside) decoded)
    obtain ⟨behindColon, colonRead, colonLeft⟩ := readColon_complete (keyLeft ▸ before)
    rw [readFields, found, ok_bind]
    dsimp only
    rw [keyRead, ok_bind]
    dsimp only
    rw [colonRead, ok_bind, mapM_foldl_cons]
    refine (reads _ List.mem_cons_self behindColon _ _ (colonLeft ▸ blank) written
      (others.ends rfl)).bind ?_
    intro one behind _ left
    exact inductionHypothesis (fun field member => reads field (List.mem_cons_of_mem _ member))
      fuel (Nat.lt_of_succ_lt_succ enough) behind left (insert key one fields)

/-! ## Values -/

private theorem readValue_of_number {nesting : Nat} {cursor : Cursor} {c : Char}
    (peeked : cursor.skipBlank.peek = some c) (begins : c = '-' ∨ Text.isDigit c = true) :
    readValue nesting cursor =
      readNumber cursor.skipBlank >>= fun (value, cursor) => .ok (.number value, cursor) := by
  rw [readValue.eq_def]
  dsimp only
  rw [peeked]
  split
  case h_8 same =>
    cases same
    rw [if_pos begins]
    rfl
  case h_1 same => cases same
  all_goals
    next same =>
      cases same
      exact absurd begins (by decide)

/-- The keywords: the letter by which each is chosen, the others and the value. -/
def keywords : List (Char × Text × Json) :=
  [('n', "ull".toList, .null), ('t', "rue".toList, .bool true), ('f', "alse".toList, .bool false)]

section Keywords

variable {first : Char} {letters : Text} {value : Json}

private theorem letters_of_keyword (known : (first, letters, value) ∈ keywords) :
    (∀ c ∈ first :: letters, c.toNat < 0x80) ∧
      isBlankByte (UInt8.ofNat first.toNat) = false := by
  simp only [keywords, List.mem_cons, List.not_mem_nil, or_false, Prod.mk.injEq] at known
  rcases known with ⟨rfl, rfl, -⟩ | ⟨rfl, rfl, -⟩ | ⟨rfl, rfl, -⟩
  all_goals exact ⟨by simp, rfl⟩

private theorem readValue_of_keyword {nesting : Nat} {cursor : Cursor}
    (known : (first, letters, value) ∈ keywords) (peeked : cursor.skipBlank.peek = some first) :
    readValue nesting cursor =
      readKeyword letters cursor.skipBlank.advance >>= fun after => .ok (value, after) := by
  simp only [keywords, List.mem_cons, List.not_mem_nil, or_false, Prod.mk.injEq] at known
  rw [readValue.eq_def]
  dsimp only
  rcases known with ⟨rfl, rfl, rfl⟩ | ⟨rfl, rfl, rfl⟩ | ⟨rfl, rfl, rfl⟩
  all_goals
    rw [peeked]
    rfl

private theorem readValue_keyword {nesting : Nat} {cursor : Cursor} {rest : Bytes}
    (known : (first, letters, value) ∈ keywords)
    (blank : Blank cursor.rest (Utf8.encode (first :: letters) ++ rest)) :
    Yields (readValue nesting cursor) (some value) rest := by
  obtain ⟨ascii, notBlank⟩ := letters_of_keyword known
  rw [Utf8.encode_of_ascii ascii, List.map_cons, List.cons_append] at blank
  rw [List.forall_mem_cons] at ascii
  have here := blank.rest_skipBlank notBlank
  have peeked := Cursor.peek_of_rest here
  rw [toChar_toByte ascii.1] at peeked
  obtain ⟨after, read, left⟩ := readKeyword_complete ascii.2
    cursor.skipBlank.advance (Cursor.rest_advance_of_cons here)
  rw [readValue_of_keyword known peeked, read]
  exact .ok left

end Keywords

/-- What is written as a value with a number of levels at most is read to its end when what stands
behind may stand behind a value. It gives its value, or fails when it has none. -/
def ReadsToEnd (nesting : Nat) : Prop :=
  ∀ {tree : Tree} {cursor : Cursor} {start rest : Bytes}, Blank cursor.rest start ->
    Written tree start rest -> Ends rest ->
      Yields (readValue nesting cursor) (tree.value? nesting) rest

section Kinds

variable {nesting : Nat} {cursor : Cursor} {bytes rest : Bytes}

private theorem readValue_number {parts : NumberParts} (blank : Blank cursor.rest bytes)
    (numeral : Numeral parts bytes rest) (ends : Ends rest) :
    Yields (readValue nesting cursor) (parts.value?.map .number) rest := by
  obtain ⟨byte, more, rfl, begins⟩ := numeral.exists_cons
  have notBlank : isBlankByte byte = false := by
    rcases begins with rfl | digit
    · rfl
    · exact (isBlankByte_of_isDigitByte digit).1
  have here := blank.rest_skipBlank notBlank
  have beginsNumber :
      Char.ofNat byte.toNat = '-' ∨ Text.isDigit (Char.ofNat byte.toNat) = true := by
    rcases begins with rfl | digit
    · exact .inl rfl
    · exact .inr (isDigit_of_isDigitByte digit)
  rw [readValue_of_number (Cursor.peek_of_rest here) beginsNumber]
  exact (readNumber_complete (here ▸ numeral) ends).map fun _ after left => ⟨after, rfl, left⟩

private theorem readValue_string {text : Text} (blank : Blank cursor.rest bytes)
    (quoted : Quoted text bytes rest) :
    Yields (readValue nesting cursor) (some (.string text)) rest := by
  obtain ⟨inside, decoded⟩ := quoted
  have here := blank.rest_skipBlank rfl
  have quote : cursor.skipBlank.peek = some '"' := Cursor.peek_of_rest here
  have behind := Cursor.rest_advance_of_cons here
  obtain ⟨after, read, left⟩ := readString_complete _ (.quotes (behind ▸ inside) decoded)
  rw [readValue.eq_def]
  dsimp only
  rw [quote, read]
  exact .ok left

private theorem readValue_array (inside : ∀ inner, nesting = inner + 1 -> ReadsToEnd inner)
    {items : List Tree} (blank : Blank cursor.rest (0x5B :: bytes))
    (row : Row Written 0x5D true items bytes rest) :
    Yields (readValue nesting cursor) ((Tree.array items).value? nesting) rest := by
  have here := blank.rest_skipBlank rfl
  have bracket : cursor.skipBlank.peek = some '[' := Cursor.peek_of_rest here
  rw [readValue.eq_def]
  dsimp only
  rw [bracket]
  cases nesting with
  | zero => exact ⟨_, rfl⟩
  | succ inner =>
    have enough := row.length_add_lt fun _ _ _ _ written => written.length_lt
    have elements := readElements_complete row
      (fun _ _ _ _ written => inside inner rfl (.none _) written)
      (cursor.skipBlank.rest.length + 1) (by rw [here, List.length_cons]; omega)
      cursor.skipBlank.advance (Cursor.rest_advance_of_cons here)
    rw [Tree.value?]
    exact elements.map fun _ after left => ⟨_, rfl, Cursor.rest_advance_of_cons left⟩

private theorem readValue_object (inside : ∀ inner, nesting = inner + 1 -> ReadsToEnd inner)
    {fields : List (Text × Tree)} (blank : Blank cursor.rest (0x7B :: bytes))
    (row : Row (Member Written) 0x7D true fields bytes rest) :
    Yields (readValue nesting cursor) ((Tree.object fields).value? nesting) rest := by
  have here := blank.rest_skipBlank rfl
  have brace : cursor.skipBlank.peek = some '\x7b' := Cursor.peek_of_rest here
  rw [readValue.eq_def]
  dsimp only
  rw [brace]
  cases nesting with
  | zero => exact ⟨_, rfl⟩
  | succ inner =>
    have enough := row.length_add_lt fun _ _ _ _ member =>
      member.length_lt fun _ _ written => written.length_lt
    have members := readFields_complete row
      (fun _ _ _ _ _ before written => inside inner rfl before written)
      (cursor.skipBlank.rest.length + 1) (by rw [here, List.length_cons]; omega)
      cursor.skipBlank.advance (Cursor.rest_advance_of_cons here) []
    -- The loop sets one key after the other; the value collects all of them at once.
    have same : (fun values => Json.object (collect values)) =
        Json.object ∘ fun values : Fields =>
          values.foldl (fun fields field => insert field.1 field.2 fields) [] := by
      funext values
      exact congrArg Json.object (foldl_insert [] values).symm
    rw [Tree.value?, same, ← Option.map_map]
    exact members.map fun _ after left => ⟨_, rfl, Cursor.rest_advance_of_cons left⟩

end Kinds

/-- A value is read when the values inside it are. -/
theorem readsToEnd_step {nesting : Nat}
    (inside : ∀ inner, nesting = inner + 1 -> ReadsToEnd inner) : ReadsToEnd nesting := by
  intro tree cursor start rest blank written ends
  cases written with
  | null =>
    rw [Tree.value?]
    exact readValue_keyword (.head _) blank
  | bool value =>
    rw [Tree.value?]
    cases value with
    | true => exact readValue_keyword (.tail _ (.head _)) blank
    | false => exact readValue_keyword (.tail _ (.tail _ (.head _))) blank
  | number numeral =>
    rw [Tree.value?]
    exact readValue_number blank numeral ends
  | string quoted =>
    rw [Tree.value?]
    exact readValue_string blank quoted
  | array row => exact readValue_array inside blank row
  | object row => exact readValue_object inside blank row

theorem readValue_complete (nesting : Nat) : ReadsToEnd nesting := by
  induction nesting with
  | zero => exact readsToEnd_step fun _ same => absurd same.symm (Nat.succ_ne_zero _)
  | succ inner inductionHypothesis =>
    refine readsToEnd_step fun _ same => ?_
    cases same
    exact inductionHypothesis

/-! ## Whole texts -/

/-- A whole text is read when its value is, with only blanks behind. -/
theorem readWholeText_eq_ok_iff {α : Type} {readOne : Cursor -> Except ReadError (α × Cursor)}
    {value? : Option α} {bytes behind : Bytes}
    (yields : Yields (readOne (Cursor.start bytes)) value? behind) (blank : Blank behind [])
    {value : α} : readWholeText readOne bytes = .ok value ↔ value? = some value := by
  unfold readWholeText
  cases value? with
  | none =>
    obtain ⟨error, failed⟩ := yields
    rw [failed]
    exact ⟨nofun, nofun⟩
  | some found =>
    obtain ⟨after, read, left⟩ := yields
    have atEnd : after.skipBlank.rest.isEmpty = true := by
      rw [Cursor.rest_skipBlank, left, blank.dropWhile_eq]
      rfl
    rw [read, ok_bind]
    dsimp only
    rw [if_pos atEnd, Option.some.injEq]
    exact Except.ok.injEq found value ▸ Iff.rfl

theorem Blank.ends_of_nil {behind : Bytes} (blank : Blank behind []) : Ends behind :=
  blank.ends nofun

/-- What is written as a text is read as its value, and nothing else is. -/
theorem IsText.parse_eq_ok_iff {tree : Tree} {bytes : Bytes} (text : IsText tree bytes)
    {json : Json} : parse bytes = .ok json ↔ tree.value? nestingLimit = some json := by
  obtain ⟨start, behind, blank, written, atEnd⟩ := text
  exact readWholeText_eq_ok_iff (readValue_complete _ blank written atEnd.ends_of_nil) atEnd

end LoginGate.Json
