import LoginGate.Json.Basic
import LoginGate.Text.Utf8

/-!
Contract: a place in a JSON text, and what is wrong with the text there.

Owns:
- the unread bytes with the line and column they begin at;
- the causes for which a text is refused, with their wording;
- the two ways in which an error is placed: behind what was read, or behind the next byte.

Does not own: the grammar (`Json.Reader`).
-/

namespace LoginGate.Json

/-- The unread part of a text. Lines count from one; the column is the number of bytes of the
current line that are read. -/
structure Cursor where
  rest : Bytes
  line : Nat := 1
  column : Nat := 0
deriving DecidableEq, Repr

inductive Cause where
  | endInList
  | endInObject
  | endInString
  | endInValue
  | expectedColon
  | expectedListComma
  | expectedObjectComma
  | expectedIdent
  | expectedValue
  | invalidEscape
  | invalidNumber
  | numberOutOfRange
  | invalidCodePoint
  | controlInString
  | keyNotString
  | loneSurrogate
  | trailingComma
  | trailingCharacters
  | unexpectedEscapeEnd
  | tooDeep
  /-- A value of another kind than expected. -/
  | wrongType (found expected : Text)
  /-- A value of the expected kind that is out of range. -/
  | wrongValue (found expected : Text)
  | wrongLength (found : Nat) (expected : Text)
  | missingField (key : Text)
  | duplicateField (key : Text)
  /-- A rule of the field's own type is broken. -/
  | refused (reason : Text)
deriving DecidableEq, Repr

def backquoted (name : Text) : Text := '\x60' :: name ++ ['\x60']

def Cause.message : Cause -> Text
  | .endInList => "EOF while parsing a list".toList
  | .endInObject => "EOF while parsing an object".toList
  | .endInString => "EOF while parsing a string".toList
  | .endInValue => "EOF while parsing a value".toList
  | .expectedColon => "expected ".toList ++ backquoted [':']
  | .expectedListComma =>
    "expected ".toList ++ backquoted [','] ++ " or ".toList ++ backquoted [']']
  | .expectedObjectComma =>
    "expected ".toList ++ backquoted [','] ++ " or ".toList ++ backquoted ['\x7d']
  | .expectedIdent => "expected ident".toList
  | .expectedValue => "expected value".toList
  | .invalidEscape => "invalid escape".toList
  | .invalidNumber => "invalid number".toList
  | .numberOutOfRange => "number out of range".toList
  | .invalidCodePoint => "invalid unicode code point".toList
  | .controlInString =>
    "control character (\\u0000-\\u001F) found while parsing a string".toList
  | .keyNotString => "key must be a string".toList
  | .loneSurrogate => "lone leading surrogate in hex escape".toList
  | .trailingComma => "trailing comma".toList
  | .trailingCharacters => "trailing characters".toList
  | .unexpectedEscapeEnd => "unexpected end of hex escape".toList
  | .tooDeep => "recursion limit exceeded".toList
  | .wrongType found expected =>
    "invalid type: ".toList ++ found ++ ", expected ".toList ++ expected
  | .wrongValue found expected =>
    "invalid value: ".toList ++ found ++ ", expected ".toList ++ expected
  | .wrongLength found expected =>
    "invalid length ".toList ++ Text.ofNat found ++ ", expected ".toList ++ expected
  | .missingField key => "missing field ".toList ++ backquoted key
  | .duplicateField key => "duplicate field ".toList ++ backquoted key
  | .refused reason => reason

/-- A cause and where it arose, as line and column. A rule that is checked after its value was read
has no place of its own. -/
structure ReadError where
  cause : Cause
  place : Option (Nat × Nat)
deriving DecidableEq, Repr

def ReadError.message (error : ReadError) : Text :=
  error.cause.message ++
    match error.place with
    | none => []
    | some (line, column) =>
      " at line ".toList ++ Text.ofNat line ++ " column ".toList ++ Text.ofNat column

namespace Cursor

def start (bytes : Bytes) : Cursor := { rest := bytes }

def advance (cursor : Cursor) : Cursor :=
  match cursor.rest with
  | [] => cursor
  | byte :: rest =>
    if byte = 0x0A then { rest, line := cursor.line + 1, column := 0 }
    else { rest, line := cursor.line, column := cursor.column + 1 }

def advanceBy : Nat -> Cursor -> Cursor
  | 0, cursor => cursor
  | n + 1, cursor => advanceBy n cursor.advance

/-- The next character, when it is ASCII. Any other byte has no meaning outside a string. -/
def peek (cursor : Cursor) : Option Char :=
  cursor.rest.head?.map fun byte => Char.ofNat byte.toNat

def place (cursor : Cursor) : Nat × Nat := (cursor.line, cursor.column)

/-- An error behind what was read. -/
def errorHere (cursor : Cursor) (cause : Cause) : ReadError :=
  { cause, place := some cursor.place }

/-- An error behind the next byte. -/
def errorNext (cursor : Cursor) (cause : Cause) : ReadError :=
  { cause, place := some cursor.advance.place }

/-- Reading shortens a rest that is not empty. -/
theorem length_advance_lt {cursor : Cursor} {byte : UInt8} {rest : Bytes}
    (more : cursor.rest = byte :: rest) :
    cursor.advance.rest.length < cursor.rest.length := by
  unfold advance
  rw [more]
  simp only
  split <;> simp

end Cursor

def isBlankByte (byte : UInt8) : Bool :=
  byte == 0x20 || byte == 0x0A || byte == 0x09 || byte == 0x0D

def Cursor.skipBlank (cursor : Cursor) : Cursor :=
  match _more : cursor.rest with
  | [] => cursor
  | byte :: _ => if isBlankByte byte then skipBlank cursor.advance else cursor
termination_by cursor.rest.length
decreasing_by exact Cursor.length_advance_lt _more

end LoginGate.Json
