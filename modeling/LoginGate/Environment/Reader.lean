import LoginGate.Environment.Tree
import LoginGate.Word

/-!
Contract: reading records from settings.

Owns: the readers of single settings, the fields of a record by name or by position, and the errors
with their places.

Does not own: the records themselves (`Settings`).

A field of the wrong kind is reported before a field that is missing.
-/

namespace LoginGate.Environment

inductive Cause where
  /-- A value that came from a variable and cannot be converted. -/
  | wrongValue (found expected : Text)
  /-- A setting that is no single value or no record. -/
  | wrongKind (found expected : Text)
  | wrongLength (count : Nat) (expected : Text)
  | missing
deriving DecidableEq, Repr

structure Error where
  cause : Cause
  place : List Step := []
deriving DecidableEq, Repr

def placeText : List Step -> Text
  | [] => []
  | .entry name :: rest =>
    name ++ (match rest with
      | .entry _ :: _ => ['.']
      | _ => []) ++ placeText rest
  | .item position :: rest =>
    '[' :: Text.ofInt position ++ [']'] ++ (match rest with
      | .entry _ :: _ => ['.']
      | _ => []) ++ placeText rest

def Error.message (error : Error) : Text :=
  let place := if error.place.isEmpty then []
    else " for key \x60".toList ++ placeText error.place ++ ['\x60']
  match error.cause with
  | .wrongValue found expected =>
    "invalid type: ".toList ++ found ++ ", expected ".toList ++ expected ++ place ++
      " in the environment".toList
  | .wrongKind found expected =>
    "invalid type: ".toList ++ found ++ ", expected ".toList ++ expected ++ place
  | .wrongLength count expected =>
    "invalid length ".toList ++ Text.ofNat count ++ ", expected ".toList ++ expected ++ place
  | .missing => "missing configuration field ".toList ++ Text.inQuotes (placeText error.place)

abbrev Reader (α : Type) := Setting -> Except Error α

/-! ## Single values -/

/-- The name of a setting that is no single value. -/
def Setting.kind : Setting -> Text
  | .unset => "unit value".toList
  | .scalar value => value.kind
  | .table _ => "map".toList
  | .list _ => "sequence".toList

def notSingle {α : Type} (setting : Setting) (expected : String) : Except Error α :=
  .error { cause := .wrongKind setting.kind expected.toList }

def readText : Reader Text
  | .scalar value => .ok value.toText
  | other => notSingle other "a string"

/-- Reads a truth value. A word is refused in the lower case in which it is compared. -/
def readBool : Reader Bool
  | .scalar value =>
    match value.toBool? with
    | some truth => .ok truth
    | none =>
      .error {
        cause := .wrongValue ("string ".toList ++ Text.inQuotes (Unicode.toLower value.toText))
          "a boolean".toList }
  | other => notSingle other "a boolean"

def readInteger (low high : Int) (name : String) : Reader Int
  | .scalar value =>
    match value.toInteger? low high with
    | some n =>
      if low ≤ n ∧ n ≤ high then .ok n
      else .error {
        cause := .wrongValue (Scalar.named "64-bit integer" (Text.ofInt n)) name.toList }
    | none => .error { cause := .wrongValue value.kind "an integer".toList }
  | other => notSingle other "an integer"

def readSigned : Reader Int :=
  readInteger Word.minSigned64 Word.maxSigned64 "a signed 64 bit or less integer"

def readUnsigned : Reader Nat := fun setting =>
  (readInteger 0 Word.maxUnsigned64 "an unsigned 64 bit or less integer" setting).map Int.toNat

/-- Reads an unset setting as nothing, and anything else by another reader. -/
def readOptional {α : Type} (read : Reader α) : Reader (Option α)
  | .unset => .ok none
  | other => (read other).map some

/-! ## Records -/

structure Fields where
  name : String
  count : Nat
  settings : Setting

/-- The settings of a record with a name and a number of fields: a table, or a list in the order of
the fields. -/
def fields (name : String) (count : Nat) (setting : Setting) : Except Error Fields :=
  match setting with
  | .table _ | .list _ => .ok { name, count, settings := setting }
  | other => .error { cause := .wrongKind other.kind ("struct ".toList ++ name.toList) }

namespace Fields

variable {α : Type}

def below (step : Step) (result : Except Error α) : Except Error α :=
  result.mapError fun error => { error with place := step :: error.place }

def read? (given : Fields) (name : String) (position : Nat) (read : Reader α) :
    Except Error (Option α) :=
  match given.settings with
  | .list items =>
    match items[position]? with
    | some setting => (below (.item position) (read setting)).map some
    | none => .ok none
  | settings =>
    match lookup name.toList settings.entries with
    | some setting => (below (.entry name.toList) (read setting)).map some
    | none => .ok none

def require (given : Fields) (name : String) (position : Nat) (value : Option α) :
    Except Error α :=
  match value with
  | some value => .ok value
  | none =>
    match given.settings with
    | .list _ =>
      .error {
        cause := .wrongLength position ("struct ".toList ++ given.name.toList ++ " with ".toList ++
          Text.ofNat given.count ++ " elements".toList) }
    | _ => .error { cause := .missing, place := [.entry name.toList] }

end Fields
end LoginGate.Environment
