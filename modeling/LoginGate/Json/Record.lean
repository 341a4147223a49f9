import LoginGate.Json.Kind
import LoginGate.Word

/-!
Contract: reading records, which are objects with known keys.

Owns:
- the description of a record by its fields, and its reader, which also takes an array that gives
  the fields in order;
- the readers of single fields.

Does not own: the records themselves, which stand with their types.

A record is filled field by field into a draft; unknown keys are skipped and a key must not come
twice. An error in the record as a whole has its place behind the closing bracket.
-/

namespace LoginGate.Json

/-! ## Fields -/

def readText (cursor : Cursor) : Except ReadError (Text × Cursor) :=
  let cursor := cursor.skipBlank
  match cursor.peek with
  | none => .error (cursor.errorNext .endInValue)
  | some '"' => readString cursor.advance
  | some _ => .error (wrongType cursor "a string".toList)

/-- Reads `null` as nothing, and anything else by another reader. -/
def readOptional {α : Type} (read : Cursor -> Except ReadError (α × Cursor)) (cursor : Cursor) :
    Except ReadError (Option α × Cursor) := do
  let cursor := cursor.skipBlank
  if cursor.peek = some 'n' then
    return (none, <- readKeyword "ull".toList cursor.advance)
  else
    let (value, cursor) <- read cursor
    return (some value, cursor)

def readBool (cursor : Cursor) : Except ReadError (Bool × Cursor) := do
  let cursor := cursor.skipBlank
  match cursor.peek with
  | none => throw (cursor.errorNext .endInValue)
  | some 't' => return (true, <- readKeyword "rue".toList cursor.advance)
  | some 'f' => return (false, <- readKeyword "alse".toList cursor.advance)
  | some _ => throw (wrongType cursor "a boolean".toList)

/-- Reads an integer from `low` to `high`, a range called by a name. -/
def readInteger (low high : Int) (name : Text) (cursor : Cursor) :
    Except ReadError (Int × Cursor) := do
  let cursor := cursor.skipBlank
  match cursor.peek with
  | none => throw (cursor.errorNext .endInValue)
  | some c =>
    if c = '-' ∨ Text.isDigit c then
      let (value, after) <- readNumber cursor
      match value with
      | .integer n =>
        if low ≤ n ∧ n ≤ high then return (n, after)
        else throw (after.errorHere (.wrongValue value.kind name))
      | .float _ => throw (after.errorHere (.wrongType value.kind name))
    else throw (wrongType cursor name)

def readSigned : Cursor -> Except ReadError (Int × Cursor) :=
  readInteger Word.minSigned64 Word.maxSigned64 "i64".toList

def readUnsigned (cursor : Cursor) : Except ReadError (Nat × Cursor) :=
  (readInteger 0 Word.maxUnsigned64 "u64".toList cursor).map fun (n, after) => (n.toNat, after)

/-- Reads a string with a form of its own; what is wrong with the form is placed behind it. -/
def readFormatted {α : Type} (parse : Text -> Except Text α) (expected : Text) (cursor : Cursor) :
    Except ReadError (α × Cursor) := do
  let cursor := cursor.skipBlank
  match cursor.peek with
  | none => throw (cursor.errorNext .endInValue)
  | some '"' =>
    let (text, after) <- readString cursor.advance
    match parse text with
    | .ok value => return (value, after)
    | .error reason => throw (after.errorHere (.refused reason))
  | some _ => throw (wrongType cursor expected)

/-! ## Records -/

/-- One field of a record that is collected in a draft. -/
structure Slot (Draft : Type) where
  key : Text
  /-- Whether a record given as an array must reach this field. -/
  required : Bool
  /-- Whether the draft holds the field already. -/
  filled : Draft -> Bool
  /-- Reads the field and puts it into the draft. -/
  read : Draft -> Cursor -> Except ReadError (Draft × Cursor)

/-- A field with a reader of its values, which is unset until it is read. -/
def Slot.of {Draft α : Type} (key : String) (required : Bool)
    (read : Cursor -> Except ReadError (α × Cursor)) (get : Draft -> Option α)
    (set : Draft -> α -> Draft) : Slot Draft where
  key := key.toList
  required := required
  filled draft := (get draft).isSome
  read draft cursor := (read cursor).map fun (value, after) => (set draft value, after)

/-- A record: the name that its errors give it, its fields, and the step from a draft to the
finished value, which finds the fields that are missing. -/
structure Layout (Draft α : Type) where
  name : Text
  /-- An open record reads the values of unknown keys, and is never given as an array. -/
  isOpen : Bool := false
  slots : List (Slot Draft)
  empty : Draft
  finish : Draft -> Except Cause α

/-- The place of an error in a whole object: behind its brace if that comes next. -/
def objectPlace (cursor : Cursor) : Nat × Nat :=
  let cursor := cursor.skipBlank
  (if cursor.peek = some '\x7d' then cursor.advance else cursor).place

def arrayPlace (cursor : Cursor) : Nat × Nat :=
  let cursor := cursor.skipBlank
  if cursor.peek = some ']' then cursor.advance.place
  else if cursor.peek = some ',' then cursor.advance.skipBlank.place
  else cursor.place

variable {Draft α : Type}

/-- Passes over the value of an unknown key; an open record reads it. -/
def passValue (isOpen : Bool) (cursor : Cursor) : Except ReadError Cursor :=
  if isOpen then (readValue (nestingLimit - 1) cursor).map (·.2)
  else skipValue (2 * cursor.rest.length + 2) cursor

def readMembers (isOpen : Bool) (slots : List (Slot Draft)) :
    (fuel : Nat) -> (first : Bool) -> Draft -> Cursor -> Except ReadError (Draft × Cursor)
  | 0, _, _, cursor => .error (cursor.errorNext .endInObject)
  | fuel + 1, first, draft, cursor => do
    match <- nextKey first cursor with
    | none => return (draft, cursor.skipBlank)
    | some cursor =>
      let (key, cursor) <- readString cursor
      match slots.find? (·.key = key) with
      | none =>
        let cursor <- readColon cursor
        readMembers isOpen slots fuel false draft (<- passValue isOpen cursor)
      | some slot =>
        if slot.filled draft then
          throw { cause := .duplicateField key, place := some (objectPlace cursor) }
        let (draft, cursor) <- slot.read draft (<- readColon cursor)
        readMembers isOpen slots fuel false draft cursor

/-- Reads the elements of an array as the fields of a record, in order. -/
def readPositions (whole : Text) :
    (index : Nat) -> List (Slot Draft) -> Draft -> Cursor -> Except ReadError (Draft × Cursor)
  | _, [], draft, cursor => .ok (draft, cursor)
  | index, slot :: slots, draft, cursor => do
    match <- nextElement (index == 0) cursor with
    | none =>
      if slot.required then
        throw { cause := .wrongLength index whole, place := some (arrayPlace cursor) }
      readPositions whole (index + 1) slots draft cursor
    | some cursor =>
      let (draft, cursor) <- slot.read draft cursor
      readPositions whole (index + 1) slots draft cursor

def closeArray (cursor : Cursor) : Except ReadError Cursor :=
  let cursor := cursor.skipBlank
  match cursor.peek with
  | some ']' => .ok cursor.advance
  | some ',' =>
    let next := cursor.advance.skipBlank
    .error (next.errorNext (if next.peek = some ']' then .trailingComma else .trailingCharacters))
  | some _ => .error (cursor.errorNext .trailingCharacters)
  | none => .error (cursor.errorNext .endInList)

def Layout.read (layout : Layout Draft α) (cursor : Cursor) : Except ReadError (α × Cursor) := do
  let cursor := cursor.skipBlank
  match cursor.peek with
  | none => throw (cursor.errorNext .endInValue)
  | some '\x7b' =>
    let (draft, after) <-
      readMembers layout.isOpen layout.slots (cursor.rest.length + 1) true layout.empty
        cursor.advance
    match layout.finish draft with
    | .ok value => return (value, after.advance)
    | .error cause => throw { cause, place := some (objectPlace after) }
  | some '[' =>
    if layout.isOpen then throw (wrongType cursor ("struct ".toList ++ layout.name))
    let count := layout.slots.length
    let whole := "struct ".toList ++ layout.name ++ " with ".toList ++ Text.ofNat count ++
      (if count = 1 then " element".toList else " elements".toList)
    let (draft, after) <- readPositions whole 0 layout.slots layout.empty cursor.advance
    match layout.finish draft with
    | .ok value => return (value, <- closeArray after)
    | .error cause => throw { cause, place := some (arrayPlace after) }
  | some _ => throw (wrongType cursor ("struct ".toList ++ layout.name))

def require {β : Type} (key : Text) : Option β -> Except Cause β
  | some value => .ok value
  | none => .error (.missingField key)

end LoginGate.Json
