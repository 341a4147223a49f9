import LoginGate.Json.Literal
import LoginGate.Proofs.Text.Numeral
import LoginGate.Proofs.Text.Utf8

/-!
Contract: how JSON values are written, said without the reader.

Owns:
- values as they are written: numbers by their digits, objects with every field, also of repeated
  keys;
- the grammar of JSON texts as a relation between what is written, the bytes and the bytes behind;
- what is common to all written values: their first byte, their length, what may stand behind them;
- the induction on written values.

Does not own: what a written value means (`Json.Meaning`), or what is read from it (`Json.Sound`,
`Json.Complete`).

The bytes behind a value are part of the relation, so that the parts of a text are put together by
naming the place where one ends and the next begins. Where a run of blanks or digits ends is left
open; it is the bytes behind that settle it.
-/

namespace LoginGate.Json

inductive Tree where
  | null
  | bool (value : Bool)
  | number (parts : NumberParts)
  | string (text : Text)
  | array (items : List Tree)
  | object (fields : List (Text × Tree))

/-- What holds of a written value when it holds of all values inside, holds of every one. -/
theorem Tree.induct {Motive : Tree -> Prop} (null : Motive .null)
    (bool : ∀ value, Motive (.bool value)) (number : ∀ parts, Motive (.number parts))
    (string : ∀ text, Motive (.string text))
    (array : ∀ items, (∀ item ∈ items, Motive item) -> Motive (.array items))
    (object : ∀ fields, (∀ field ∈ fields, Motive field.2) -> Motive (.object fields)) :
    ∀ tree, Motive tree
  | .null => null
  | .bool value => bool value
  | .number parts => number parts
  | .string text => string text
  | .array items =>
    array items fun item _member => induct null bool number string array object item
  | .object fields =>
    object fields fun field _member => induct null bool number string array object field.2
termination_by tree => sizeOf tree
decreasing_by
  · have smaller := List.sizeOf_lt_of_mem _member
    simp only [Tree.array.sizeOf_spec]
    omega
  · have smaller := List.sizeOf_lt_of_mem _member
    have part : sizeOf field = 1 + sizeOf field.1 + sizeOf field.2 := rfl
    simp only [Tree.object.sizeOf_spec]
    omega

/-! ## Blanks -/

inductive Blank : (bytes rest : Bytes) -> Prop where
  | none (rest : Bytes) : Blank rest rest
  | more {byte : UInt8} {bytes rest : Bytes} (blank : isBlankByte byte = true)
      (others : Blank bytes rest) : Blank (byte :: bytes) rest

/-! ## Strings -/

def shortEscapes : List (UInt8 × Char) :=
  [(0x22, '"'), (0x5C, '\\'), (0x2F, '/'), (0x62, Char.ofNat 8), (0x66, Char.ofNat 12),
    (0x6E, '\n'), (0x72, '\r'), (0x74, '\t')]

inductive Hex : (value : Nat) -> (bytes rest : Bytes) -> Prop where
  | four {a b c d : UInt8} {value : Nat} {rest : Bytes}
      (digits : Text.digitsValue? 16 ([a, b, c, d].map fun byte => Char.ofNat byte.toNat) =
        some value) : Hex value (a :: b :: c :: d :: rest) rest

/-- What stands behind a backslash, and the character that it means. A character beyond the first
65536 is written as two surrogates. -/
inductive Escape : (c : Char) -> (bytes rest : Bytes) -> Prop where
  | short {letter : UInt8} {c : Char} {rest : Bytes} (known : (letter, c) ∈ shortEscapes) :
      Escape c (letter :: rest) rest
  | scalar {value : Nat} {bytes rest : Bytes} (digits : Hex value bytes rest)
      (scalar : value < 0xD800 ∨ 0xDFFF < value) : Escape (Char.ofNat value) (0x75 :: bytes) rest
  | pair {high low : Nat} {bytes between rest : Bytes}
      (highDigits : Hex high bytes (0x5C :: 0x75 :: between)) (lowDigits : Hex low between rest)
      (isHigh : 0xD800 ≤ high ∧ high ≤ 0xDBFF) (isLow : 0xDC00 ≤ low ∧ low ≤ 0xDFFF) :
      Escape (Char.ofNat (0x10000 + (high - 0xD800) * 0x400 + (low - 0xDC00))) (0x75 :: bytes) rest

/-- The inside of a string with its closing quote, and the bytes that it means. -/
inductive Inside : (meant bytes rest : Bytes) -> Prop where
  | close (rest : Bytes) : Inside [] (0x22 :: rest) rest
  | byte {byte : UInt8} {meant bytes rest : Bytes} (notQuote : byte ≠ 0x22)
      (notBackslash : byte ≠ 0x5C) (notControl : ¬ byte < 0x20) (others : Inside meant bytes rest) :
      Inside (byte :: meant) (byte :: bytes) rest
  | escape {c : Char} {meant bytes between rest : Bytes} (escaped : Escape c bytes between)
      (others : Inside meant between rest) :
      Inside (Utf8.encodeChar c ++ meant) (0x5C :: bytes) rest

inductive Quoted : (text : Text) -> (bytes rest : Bytes) -> Prop where
  | quotes {text : Text} {meant bytes rest : Bytes} (inside : Inside meant bytes rest)
      (decoded : Utf8.decode? meant = some text) : Quoted text (0x22 :: bytes) rest

/-! ## Numbers -/

inductive Minus : (negative : Bool) -> (bytes rest : Bytes) -> Prop where
  | absent (rest : Bytes) : Minus false rest rest
  | present (rest : Bytes) : Minus true (0x2D :: rest) rest

inductive Sign : (negative : Bool) -> (bytes rest : Bytes) -> Prop where
  | minus {negative : Bool} {bytes rest : Bytes} (minus : Minus negative bytes rest) :
      Sign negative bytes rest
  | plus (rest : Bytes) : Sign false (0x2B :: rest) rest

inductive Fraction : (digits : Option Text) -> (bytes rest : Bytes) -> Prop where
  | absent (rest : Bytes) : Fraction none rest rest
  | present {digits : Text} (rest : Bytes) (isDigits : Text.IsDigits digits) :
      Fraction (some digits) (0x2E :: (Utf8.encode digits ++ rest)) rest

inductive Exponent : (exponent : Option (Bool × Text)) -> (bytes rest : Bytes) -> Prop where
  | absent (rest : Bytes) : Exponent none rest rest
  | present {mark : UInt8} {negative : Bool} {digits : Text} {bytes rest : Bytes}
      (isMark : mark = 0x65 ∨ mark = 0x45) (sign : Sign negative bytes (Utf8.encode digits ++ rest))
      (isDigits : Text.IsDigits digits) : Exponent (some (negative, digits)) (mark :: bytes) rest

/-- A number. Its digits before the point begin with zero only if that is all. -/
inductive Numeral : (parts : NumberParts) -> (bytes rest : Bytes) -> Prop where
  | parts {parts : NumberParts} {bytes behindWhole behindFraction rest : Bytes}
      (minus : Minus parts.negative bytes (Utf8.encode parts.whole ++ behindWhole))
      (isWhole : Text.IsWhole parts.whole)
      (fraction : Fraction parts.fraction behindWhole behindFraction)
      (exponent : Exponent parts.exponent behindFraction rest) : Numeral parts bytes rest

/-! ## Values -/

/-- What stands before an item: blanks, and among them a comma unless the item is the first. -/
inductive Lead : (first : Bool) -> (bytes rest : Bytes) -> Prop where
  | first {bytes rest : Bytes} (blank : Blank bytes rest) : Lead true bytes rest
  | comma {bytes behind rest : Bytes} (before : Blank bytes (0x2C :: behind))
      (blank : Blank behind rest) : Lead false bytes rest

/-- Items with commas between them and a closing bracket; when items stand before it, what is left
of such a row. -/
inductive Row {α : Type} (One : α -> Bytes -> Bytes -> Prop) (closing : UInt8) :
    (first : Bool) -> (items : List α) -> (bytes rest : Bytes) -> Prop where
  | close {first : Bool} {bytes rest : Bytes} (blank : Blank bytes (closing :: rest)) :
      Row One closing first [] bytes rest
  | item {first : Bool} {item : α} {items : List α} {bytes start behind rest : Bytes}
      (lead : Lead first bytes start) (here : One item start behind)
      (others : Row One closing false items behind rest) :
      Row One closing first (item :: items) bytes rest

inductive Member (Value : Tree -> Bytes -> Bytes -> Prop) :
    (field : Text × Tree) -> (bytes rest : Bytes) -> Prop where
  | colon {key : Text} {tree : Tree} {bytes behindKey behindColon start rest : Bytes}
      (name : Quoted key bytes behindKey) (before : Blank behindKey (0x3A :: behindColon))
      (blank : Blank behindColon start) (value : Value tree start rest) :
      Member Value (key, tree) bytes rest

/-- A value is written at the start of the bytes, and the rest stands behind it. -/
inductive Written : (tree : Tree) -> (bytes rest : Bytes) -> Prop where
  | null (rest : Bytes) : Written .null (Utf8.encode "null".toList ++ rest) rest
  | bool (value : Bool) (rest : Bytes) :
      Written (.bool value) (Utf8.encode (if value then "true" else "false").toList ++ rest) rest
  | number {parts : NumberParts} {bytes rest : Bytes} (numeral : Numeral parts bytes rest) :
      Written (.number parts) bytes rest
  | string {text : Text} {bytes rest : Bytes} (quoted : Quoted text bytes rest) :
      Written (.string text) bytes rest
  | array {items : List Tree} {bytes rest : Bytes} (row : Row Written 0x5D true items bytes rest) :
      Written (.array items) (0x5B :: bytes) rest
  | object {fields : List (Text × Tree)} {bytes rest : Bytes}
      (row : Row (Member Written) 0x7D true fields bytes rest) :
      Written (.object fields) (0x7B :: bytes) rest

def IsText (tree : Tree) (bytes : Bytes) : Prop :=
  ∃ start behind, Blank bytes start ∧ Written tree start behind ∧ Blank behind []

/-! ## Lengths -/

theorem Blank.length_le {bytes rest : Bytes} (blank : Blank bytes rest) :
    rest.length ≤ bytes.length := by
  induction blank with
  | none => exact Nat.le_refl _
  | more _ _ inductionHypothesis => exact Nat.le_succ_of_le inductionHypothesis

theorem Escape.length_lt {c : Char} {bytes rest : Bytes} (escape : Escape c bytes rest) :
    rest.length < bytes.length := by
  rcases escape with _ | ⟨⟨_⟩, _⟩ | ⟨⟨_⟩, ⟨_⟩, _, _⟩ <;> simp only [List.length_cons] <;> omega

theorem Inside.length_lt {meant bytes rest : Bytes} (inside : Inside meant bytes rest) :
    rest.length < bytes.length := by
  induction inside with
  | close => exact Nat.lt_succ_self _
  | byte _ _ _ _ inductionHypothesis => exact Nat.lt_succ_of_lt inductionHypothesis
  | escape escaped _ inductionHypothesis =>
    exact Nat.lt_succ_of_lt (Nat.lt_trans inductionHypothesis escaped.length_lt)

theorem Quoted.length_lt {text : Text} {bytes rest : Bytes} (quoted : Quoted text bytes rest) :
    rest.length < bytes.length := by
  obtain ⟨inside, -⟩ := quoted
  exact Nat.lt_succ_of_lt inside.length_lt

theorem Minus.length_le {negative : Bool} {bytes rest : Bytes} (minus : Minus negative bytes rest) :
    rest.length ≤ bytes.length := by
  cases minus with
  | absent => exact Nat.le_refl _
  | present => exact Nat.le_succ _

theorem Fraction.length_le {digits : Option Text} {bytes rest : Bytes}
    (fraction : Fraction digits bytes rest) : rest.length ≤ bytes.length := by
  cases fraction with
  | absent => exact Nat.le_refl _
  | present =>
    rw [List.length_cons, List.length_append]
    omega

theorem Sign.length_le {negative : Bool} {bytes rest : Bytes} (sign : Sign negative bytes rest) :
    rest.length ≤ bytes.length := by
  cases sign with
  | minus minus => exact minus.length_le
  | plus => exact Nat.le_succ _

theorem Exponent.length_le {exponent : Option (Bool × Text)} {bytes rest : Bytes}
    (written : Exponent exponent bytes rest) : rest.length ≤ bytes.length := by
  cases written with
  | absent => exact Nat.le_refl _
  | present _ sign =>
    have kept := sign.length_le
    rw [List.length_append] at kept
    rw [List.length_cons]
    omega

theorem Numeral.length_lt {parts : NumberParts} {bytes rest : Bytes}
    (numeral : Numeral parts bytes rest) : rest.length < bytes.length := by
  obtain ⟨minus, isWhole, fraction, exponent⟩ := numeral
  have behindMinus := minus.length_le
  have behindWhole := fraction.length_le
  have behindFraction := exponent.length_le
  have digits : 0 < (Utf8.encode parts.whole).length := by
    rw [Utf8.length_encode fun c member => Text.toNat_lt_of_isDigit (isWhole.1.2 c member)]
    exact List.length_pos_iff.2 isWhole.1.1
  rw [List.length_append] at behindMinus
  omega

theorem Lead.length_le {first : Bool} {bytes rest : Bytes} (lead : Lead first bytes rest) :
    rest.length ≤ bytes.length := by
  cases lead with
  | first blank => exact blank.length_le
  | comma before blank =>
    have toComma := before.length_le
    rw [List.length_cons] at toComma
    exact Nat.le_trans blank.length_le (Nat.le_of_succ_le toComma)

/-- A row has a byte for each of its items and one more. -/
theorem Row.length_add_lt {α : Type} {One : α -> Bytes -> Bytes -> Prop} {closing : UInt8}
    {first : Bool} {items : List α} {bytes rest : Bytes}
    (row : Row One closing first items bytes rest)
    (shorter : ∀ item ∈ items, ∀ bytes rest, One item bytes rest -> rest.length < bytes.length) :
    items.length + rest.length < bytes.length := by
  induction row with
  | close blank =>
    have kept := blank.length_le
    rw [List.length_cons] at kept
    rw [List.length_nil]
    omega
  | item lead here _ inductionHypothesis =>
    have toItem := lead.length_le
    have behindItem := shorter _ List.mem_cons_self _ _ here
    have others := inductionHypothesis fun item member =>
      shorter item (List.mem_cons_of_mem _ member)
    rw [List.length_cons]
    omega

theorem Member.length_lt {Value : Tree -> Bytes -> Bytes -> Prop} {field : Text × Tree}
    {bytes rest : Bytes} (member : Member Value field bytes rest)
    (shorter : ∀ bytes rest, Value field.2 bytes rest -> rest.length < bytes.length) :
    rest.length < bytes.length := by
  obtain ⟨name, before, blank, value⟩ := member
  have behindName := name.length_lt
  have toColon := before.length_le
  have toValue := blank.length_le
  have behindValue := shorter _ _ value
  rw [List.length_cons] at toColon
  omega

theorem Written.length_lt {tree : Tree} {bytes rest : Bytes} (written : Written tree bytes rest) :
    rest.length < bytes.length := by
  induction tree using Tree.induct generalizing bytes rest with
  | null =>
    cases written
    have letters : 0 < (Utf8.encode "null".toList).length := by decide
    rw [List.length_append]
    omega
  | bool value =>
    cases written
    have letters : 0 < (Utf8.encode (if value then "true" else "false").toList).length := by
      cases value <;> decide
    rw [List.length_append]
    omega
  | number parts =>
    obtain _ | _ | numeral := written
    exact numeral.length_lt
  | string text =>
    obtain _ | _ | _ | quoted := written
    exact quoted.length_lt
  | array items inductionHypothesis =>
    obtain _ | _ | _ | _ | row := written
    have kept := row.length_add_lt fun item member _ _ => inductionHypothesis item member
    rw [List.length_cons]
    omega
  | object fields inductionHypothesis =>
    obtain _ | _ | _ | _ | _ | row := written
    have kept := row.length_add_lt fun field member _ _ written =>
      written.length_lt fun _ _ => inductionHypothesis field member
    rw [List.length_cons]
    omega

/-! ## First bytes -/

/-- A byte that may stand behind a value: a blank, a comma or a closing bracket. -/
def isEndByte (byte : UInt8) : Bool :=
  isBlankByte byte || byte == 0x2C || byte == 0x5D || byte == 0x7D

theorem isBlankByte_iff {byte : UInt8} :
    isBlankByte byte = true ↔ byte ∈ [0x20, 0x0A, 0x09, 0x0D] := by
  simp [isBlankByte, or_assoc]

theorem isEndByte_iff {byte : UInt8} :
    isEndByte byte = true ↔ byte ∈ [0x20, 0x0A, 0x09, 0x0D, 0x2C, 0x5D, 0x7D] := by
  simp [isEndByte, isBlankByte, or_assoc]

def Ends (bytes : Bytes) : Prop := ∀ byte ∈ bytes.head?, isEndByte byte = true

theorem Blank.ends {bytes rest : Bytes} (blank : Blank bytes rest) (ends : Ends rest) :
    Ends bytes := by
  cases blank with
  | none => exact ends
  | more isBlank =>
    intro byte head
    cases head
    simp [isEndByte, isBlank]

private theorem ends_cons {byte : UInt8} (isEnd : isEndByte byte = true) (rest : Bytes) :
    Ends (byte :: rest) := by
  intro head same
  cases same
  exact isEnd

/-- What is left of a row may stand behind a value. -/
theorem Row.ends {α : Type} {One : α -> Bytes -> Bytes -> Prop} {closing : UInt8} {items : List α}
    {bytes rest : Bytes} (row : Row One closing false items bytes rest)
    (isEnd : isEndByte closing = true) : Ends bytes := by
  cases row with
  | close blank => exact blank.ends (ends_cons isEnd _)
  | item lead =>
    obtain _ | ⟨before, _⟩ := lead
    exact before.ends (ends_cons rfl _)

def isDigitByte (byte : UInt8) : Bool := 0x30 ≤ byte && byte ≤ 0x39

theorem isDigitByte_iff {byte : UInt8} :
    isDigitByte byte = true ↔ 48 ≤ byte.toNat ∧ byte.toNat ≤ 57 := by
  rw [isDigitByte, Bool.and_eq_true, decide_eq_true_eq, decide_eq_true_eq]
  exact Iff.rfl

theorem isDigitByte_of_isDigit {c : Char} (digit : Text.isDigit c = true) :
    isDigitByte (UInt8.ofNat c.toNat) = true := by
  have bounds := Text.isDigit_iff.1 digit
  rw [isDigitByte_iff, UInt8.toNat_ofNat', Nat.mod_eq_of_lt (by omega)]
  exact bounds

theorem encode_of_isDigit {digits : Text} (allDigits : ∀ c ∈ digits, Text.isDigit c = true) :
    Utf8.encode digits = digits.map fun c => UInt8.ofNat c.toNat :=
  Utf8.encode_of_ascii fun c member => Text.toNat_lt_of_isDigit (allDigits c member)

theorem exists_cons_of_isDigits {digits : Text} (isDigits : Text.IsDigits digits) :
    ∃ byte more, Utf8.encode digits = byte :: more ∧ isDigitByte byte = true := by
  obtain ⟨notEmpty, allDigits⟩ := isDigits
  obtain ⟨c, others, rfl⟩ := List.exists_cons_of_ne_nil notEmpty
  rw [encode_of_isDigit allDigits, List.map_cons]
  exact ⟨_, _, rfl, isDigitByte_of_isDigit (allDigits c List.mem_cons_self)⟩

/-- A number begins with a minus or a digit. -/
theorem Numeral.exists_cons {parts : NumberParts} {bytes rest : Bytes}
    (numeral : Numeral parts bytes rest) :
    ∃ byte more, bytes = byte :: more ∧ (byte = 0x2D ∨ isDigitByte byte = true) := by
  obtain ⟨minus, isWhole, -, -⟩ := numeral
  obtain ⟨byte, more, shape, digit⟩ := exists_cons_of_isDigits isWhole.1
  rw [shape, List.cons_append] at minus
  generalize parts.negative = negative at minus
  cases minus with
  | present => exact ⟨_, _, rfl, .inl rfl⟩
  | absent => exact ⟨_, _, rfl, .inr digit⟩

theorem isBlankByte_of_isDigitByte {byte : UInt8} (digit : isDigitByte byte = true) :
    isBlankByte byte = false ∧ byte ≠ 0x5D := by
  have bounds := isDigitByte_iff.1 digit
  constructor
  · rw [Bool.eq_false_iff, ne_eq, isBlankByte_iff]
    intro blank
    simp only [List.mem_cons, List.not_mem_nil, or_false] at blank
    rcases blank with rfl | rfl | rfl | rfl <;> simp at bounds
  · rintro rfl
    simp at bounds

/-- A value begins neither with a blank nor with a closing bracket. -/
theorem Written.exists_cons {tree : Tree} {bytes rest : Bytes} (written : Written tree bytes rest) :
    ∃ byte more, bytes = byte :: more ∧ isBlankByte byte = false ∧ byte ≠ 0x5D := by
  cases written with
  | null => exact ⟨0x6E, _, rfl, by decide⟩
  | bool value =>
    cases value with
    | true => exact ⟨0x74, _, rfl, by decide⟩
    | false => exact ⟨0x66, _, rfl, by decide⟩
  | number numeral =>
    obtain ⟨byte, more, shape, rfl | digit⟩ := numeral.exists_cons
    · exact ⟨0x2D, more, shape, by decide⟩
    · exact ⟨byte, more, shape, isBlankByte_of_isDigitByte digit⟩
  | string quoted =>
    obtain ⟨_, _⟩ := quoted
    exact ⟨0x22, _, rfl, by decide⟩
  | array => exact ⟨0x5B, _, rfl, by decide⟩
  | object => exact ⟨0x7B, _, rfl, by decide⟩

end LoginGate.Json
