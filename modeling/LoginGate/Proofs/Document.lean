import LoginGate.Identity
import LoginGate.Proofs.Json.Complete
import LoginGate.Proofs.Json.Printing
import LoginGate.Proofs.Json.Sound

/-!
Contract: a document is what its text says, and survives being printed and read again.

Owns:
- the law that exactly the texts of objects are read as documents, each with the fields that its
  written fields come to;
- the law that a document with plain numbers is read back from its own text.

Does not own: JSON values in general (`Json.Complete`, `Json.Sound`, `Json.Printing`).
-/

namespace LoginGate.Document

open Json

/-! ## Reading -/

/-- What begins with a brace is an object. -/
theorem exists_object {tree : Tree} {more rest : Bytes}
    (written : Written tree (0x7B :: more) rest) : ∃ fields, tree = .object fields := by
  generalize shape : 0x7B :: more = bytes at written
  cases written with
  | null => cases shape
  | bool value => cases value <;> cases shape
  | number numeral =>
    obtain ⟨byte, others, rfl, begins⟩ := numeral.exists_cons
    cases shape
    exact absurd begins (by decide)
  | string quoted =>
    obtain ⟨_, _⟩ := quoted
    cases shape
  | array => cases shape
  | object => exact ⟨_, rfl⟩

theorem ofJson?_eq_some_iff {json : Json} {document : Document} :
    ofJson? json = some document ↔ json = document.toJson := by
  cases json with
  | object fields =>
    rw [ofJson?, toJson, Option.some.injEq, Json.object.injEq]
    exact ⟨fun same => same ▸ rfl, fun same => same ▸ rfl⟩
  | _ => exact ⟨nofun, nofun⟩

/-- Only the text of an object is read as a document. -/
theorem parse_sound {bytes : Bytes} {document : Document} (accepted : parse bytes = .ok document) :
    ∃ fields, IsText (.object fields) bytes := by
  obtain ⟨after, documentRead, behind⟩ := readWholeText_sound accepted
  have before := blank_skipBlank (Cursor.start bytes)
  unfold read at documentRead
  dsimp only at documentRead
  generalize (Cursor.start bytes).skipBlank = here at documentRead before
  split at documentRead
  · cases documentRead
  · next brace =>
    obtain ⟨⟨value, behindValue⟩, valueRead, finished⟩ := of_bind_eq_ok documentRead
    obtain rfl : behindValue = after := by
      dsimp only at finished
      split at finished <;> exact (Prod.mk.inj (Except.ok.inj finished)).2
    obtain ⟨tree, start, blank, written⟩ := readsWritten_readValue _ _ _ _ valueRead
    have shape := Cursor.rest_of_peek brace
    have stays : start = here.rest := by
      rw [shape] at blank ⊢
      cases blank with
      | none => rfl
      | more isBlank => cases isBlank
    subst stays
    obtain ⟨fields, rfl⟩ := exists_object (shape ▸ written)
    exact ⟨fields, here.rest, behindValue.rest, before, written, behind⟩
  · cases documentRead

/-- The text of an object is read as the document of its value, and fails when it has none. -/
theorem read_complete {written : List (Text × Tree)} (cursor : Cursor) {start rest : Bytes}
    (blank : Blank cursor.rest start) (isWritten : Written (.object written) start rest)
    (ends : Ends rest) :
    Yields (read cursor) (((Tree.object written).value? nestingLimit).bind ofJson?) rest := by
  have value := isWritten
  obtain _ | _ | _ | _ | _ | row := isWritten
  have here := blank.rest_skipBlank rfl
  have brace : cursor.skipBlank.peek = some '\x7b' := Cursor.peek_of_rest here
  rw [read, brace]
  refine (readValue_complete _ (here ▸ .none _) value ends).bind fun json after found left => ?_
  obtain ⟨_, _, -, -, rfl⟩ := Tree.exists_fields found
  exact .ok left

/-- The text of an object is read as the document that its written fields come to. -/
theorem parse_eq_ok_iff {written : List (Text × Tree)} {bytes : Bytes}
    (text : IsText (.object written) bytes) {document : Document} :
    parse bytes = .ok document ↔
      (Tree.object written).value? nestingLimit = some document.toJson := by
  obtain ⟨start, behind, blank, isWritten, atEnd⟩ := text
  have yields := read_complete (Cursor.start bytes) blank isWritten atEnd.ends_of_nil
  rw [parse, readWholeText_eq_ok_iff yields atEnd, Option.bind_eq_some_iff]
  constructor
  · rintro ⟨json, value, isDocument⟩
    rw [value, ofJson?_eq_some_iff.1 isDocument]
  · intro value
    exact ⟨_, value, ofJson?_eq_some_iff.2 rfl⟩

/-! ## Printing -/

/-- A plain document is read back from its own text. -/
theorem parse_text {document : Document} (plain : IsPlain nestingLimit document.toJson) :
    parse (Utf8.encode document.text) = .ok document := by
  obtain ⟨tree, written, value⟩ := exists_written plain []
  rw [List.append_nil] at written
  have brace : Utf8.encode document.text =
      0x7B :: Utf8.encode (renderFields document.fields ++ ['\x7d']) := by
    rw [text, toJson, render, List.cons_append, Utf8.encode_cons]
    rfl
  obtain ⟨fields, rfl⟩ := exists_object (brace ▸ written)
  exact (parse_eq_ok_iff ⟨_, [], .none _, written, .none []⟩).2 value

/-! ## Both ways -/

/-- A text that is read as a document is that of an object. However it is written as one, the
document is what this means: at every level each key where it first appears, with its last value.
When all numbers are plain integers, the document is read back from its own text,
which is then printed again as it is. A document passes through the values unchanged. -/
theorem read_and_printed {bytes : Bytes} {document : Document}
    (accepted : parse bytes = .ok document) :
    (∃ written, IsText (.object written) bytes) ∧
    (∀ written, IsText (.object written) bytes ->
      (Tree.object written).Means document.toJson ∧
      ((Tree.object written).IsPlain ->
        parse (Utf8.encode document.text) = .ok document ∧
        (parse (Utf8.encode document.text)).map text = .ok document.text)) ∧
    ofJson? document.toJson = some document := by
  refine ⟨parse_sound accepted, fun written isText => ?_, rfl⟩
  have value := (parse_eq_ok_iff isText).1 accepted
  refine ⟨Tree.means_of_value? value, fun plain => ?_⟩
  have readBack := parse_text (plain.of_value? value)
  exact ⟨readBack, by rw [readBack]; rfl⟩

/-! ## A key that is repeated -/

/-- A text in which a key comes twice, and another is written with an escape. -/
def repeatedKey : Bytes :=
  Utf8.encode " \x7b\x22a\x22:0,\x22\\u0062\x22 : -7,\x22a\x22:null\x7d".toList

def repeatedKeyFields : List (Text × Tree) :=
  [("a".toList, .number ⟨false, "0".toList, none, none⟩),
    ("b".toList, .number ⟨true, "7".toList, none, none⟩),
    ("a".toList, .null)]

private theorem isText_repeatedKey : IsText (.object repeatedKeyFields) repeatedKey := by
  have whole (digit : Char) (isDigit : Text.isDigit digit = true) : Text.IsWhole [digit] :=
    ⟨⟨List.cons_ne_nil _ _, by simpa using isDigit⟩,
      fun head => congrArg (· :: []) (Option.some.inj head)⟩
  have name (rest : Bytes) : Quoted "a".toList (0x22 :: 0x61 :: 0x22 :: rest) rest :=
    .quotes (.byte (by decide) (by decide) (by decide) (.close rest)) (Utf8.decode?_encode ['a'])
  have escaped (rest : Bytes) : Quoted "b".toList
      (0x22 :: 0x5C :: 0x75 :: 0x30 :: 0x30 :: 0x36 :: 0x32 :: 0x22 :: rest) rest :=
    .quotes (.escape (.scalar (show Hex 0x62 _ _ from .four (by decide)) (by decide)) (.close rest))
      (Utf8.decode?_encode ['b'])
  have zero (rest : Bytes) :
      Written (.number ⟨false, "0".toList, none, none⟩) (0x30 :: rest) rest :=
    .number (.parts (.absent _) (whole '0' rfl) (.absent _) (.absent _))
  have seven (rest : Bytes) :
      Written (.number ⟨true, "7".toList, none, none⟩) (0x2D :: 0x37 :: rest) rest :=
    .number (.parts (.present _) (whole '7' rfl) (.absent _) (.absent _))
  have none (rest : Bytes) : Blank rest rest := .none rest
  have space (rest : Bytes) : Blank (0x20 :: rest) rest := .more rfl (.none rest)
  have bytes : repeatedKey =
      0x20 :: 0x7B :: 0x22 :: 0x61 :: 0x22 :: 0x3A :: 0x30 :: 0x2C :: 0x22 :: 0x5C :: 0x75 ::
        0x30 :: 0x30 :: 0x36 :: 0x32 :: 0x22 :: 0x20 :: 0x3A :: 0x20 :: 0x2D :: 0x37 :: 0x2C ::
        0x22 :: 0x61 :: 0x22 :: 0x3A :: 0x6E :: 0x75 :: 0x6C :: 0x6C :: 0x7D :: [] :=
    rfl
  rw [bytes]
  exact ⟨_, _, space _, .object
    (.item (.first (none _)) (.colon (name _) (none _) (none _) (zero _))
      (.item (.comma (none _) (none _)) (.colon (escaped _) (space _) (space _) (seven _))
        (.item (.comma (none _) (none _)) (.colon (name _) (none _) (none _) (.null _))
          (.close (none _))))), none _⟩

private theorem isPlain_repeatedKeyFields : (Tree.object repeatedKeyFields).IsPlain := by
  refine .object fun field member => ?_
  simp only [repeatedKeyFields, List.mem_cons, List.not_mem_nil, or_false] at member
  rcases member with rfl | rfl | rfl
  · exact .number ⟨rfl, rfl, nofun, by decide⟩
  · exact .number ⟨rfl, rfl, fun _ => by decide, by decide⟩
  · exact .null

/-- The repeated key stays in front and has its last value. -/
theorem repeatedKey_read_and_printed : ∃ document, parse repeatedKey = .ok document ∧
    document.text = "\x7b\x22a\x22:null,\x22b\x22:-7\x7d".toList ∧
    parse (Utf8.encode document.text) = .ok document := by
  have accepted : parse repeatedKey =
      .ok { fields := [("a".toList, .null), ("b".toList, .number (.integer (-7)))] } :=
    (parse_eq_ok_iff isText_repeatedKey).2 rfl
  obtain ⟨-, asWritten, -⟩ := read_and_printed accepted
  obtain ⟨-, readBack⟩ := asWritten repeatedKeyFields isText_repeatedKey
  exact ⟨_, accepted, by decide, (readBack isPlain_repeatedKeyFields).1⟩

end LoginGate.Document
