import LoginGate.Json.Reader
import LoginGate.Text.Quoted

/-!
Contract: the error for a value of the wrong kind.

Owns: the name of the kind that was found, and the place of the error, which is behind a scalar and
before an array or object.

Does not own: which kinds are expected (`Json.Record`).
-/

namespace LoginGate.Json

/-- A number as it is named in an error. -/
def Number.kind : Number -> Text
  | .integer value => "integer ".toList ++ backquoted (Text.ofInt value)
  | .float value => "floating point ".toList ++ backquoted (floatText value)

def boolKind (value : Bool) : Text :=
  "boolean ".toList ++ backquoted (if value then "true".toList else "false".toList)

def stringKind (text : Text) : Text := "string ".toList ++ Text.inQuotes text

/-- The error for the value at a cursor, which is of another kind than expected. A scalar is read
first; when it is itself malformed, that is the error. -/
def wrongType (cursor : Cursor) (expected : Text) : ReadError :=
  let found (kind : Text) (after : Cursor) : ReadError := after.errorHere (.wrongType kind expected)
  let keyword (letters kind : Text) : ReadError :=
    match readKeyword letters cursor.advance with
    | .ok after => found kind after
    | .error error => error
  match cursor.peek with
  | some 'n' => keyword "ull".toList "null".toList
  | some 't' => keyword "rue".toList (boolKind true)
  | some 'f' => keyword "alse".toList (boolKind false)
  | some '"' =>
    match readString cursor.advance with
    | .ok (text, after) => found (stringKind text) after
    | .error error => error
  | some '[' => found "sequence".toList cursor
  | some '\x7b' => found "map".toList cursor
  | some c =>
    if c = '-' ∨ Text.isDigit c then
      match readNumber cursor with
      | .ok (value, after) => found value.kind after
      | .error error => error
    else cursor.errorNext .expectedValue
  | none => cursor.errorNext .expectedValue

end LoginGate.Json
