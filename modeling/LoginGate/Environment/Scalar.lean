import LoginGate.Decimal.Plain
import LoginGate.Text.Quoted
import LoginGate.Unicode.Lowercase
import LoginGate.Word

/-!
Contract: the value of an environment variable, which is a truth value or a number if it looks like
one.

Owns: that guess, the conversions between the kinds, and the name of a value in an error.
Does not own: what a variable sets (`Environment.Tree`).
-/

namespace LoginGate.Environment

inductive Scalar where
  | bool (value : Bool)
  | integer (value : Int)
  | float (value : Decimal.Extended)
  | text (value : Text)
deriving DecidableEq, Repr

namespace Scalar

/-- Reads a signed integer of 64 bits, with any number of leading zeros. -/
def integer? (text : Text) : Option Int := do
  let (negative, digits) := Decimal.Extended.cutSign text
  let magnitude <- Text.toNat? 10 digits
  let value : Int := if negative then -(magnitude : Int) else magnitude
  if Word.minSigned64 ≤ value ∧ value ≤ Word.maxSigned64 then some value else none

def ofText (text : Text) : Scalar :=
  let lowered := Unicode.toLower text
  if lowered = "true".toList then .bool true
  else if lowered = "false".toList then .bool false
  else
    match integer? text with
    | some value => .integer value
    | none =>
      match Decimal.Extended.read? text with
      | some value => .float value
      | none => .text text

/-- A value as text; a number comes in its own form, not as it was written. -/
def toText : Scalar -> Text
  | .bool value => if value then "true".toList else "false".toList
  | .integer value => Text.ofInt value
  | .float value => value.text
  | .text value => value

def wordToBool? (text : Text) : Option Bool :=
  if ["true".toList, "on".toList, "yes".toList].contains (Unicode.toLower text) then some true
  else if ["false".toList, "off".toList, "no".toList].contains (Unicode.toLower text) then
    some false
  else none

/-- A value as a truth value; a number is true unless it is zero. -/
def toBool? : Scalar -> Option Bool
  | .bool value => some value
  | .integer value => some (value != 0)
  | .float value => some !value.isZero
  | .text value => wordToBool? value

/-- A value as an integer from `low` to `high`, a range that holds 0 and 1. Fractions are rounded
and cut off at the range; an integer out of range is left for the caller to refuse. -/
def toInteger? (low high : Int) : Scalar -> Option Int
  | .bool value => some (if value then 1 else 0)
  | .integer value => some value
  | .float value => some (value.toInteger low high)
  | .text value => (wordToBool? value).map fun truth => if truth then 1 else 0

def named (kind : String) (value : Text) : Text :=
  kind.toList ++ " \x60".toList ++ value ++ ['\x60']

/-- A value as it is named where a record was expected. -/
def kind : Scalar -> Text
  | .bool value => named "boolean" (if value then "true".toList else "false".toList)
  | .integer value => named "integer" (Text.ofInt value)
  | .float value => named "floating point" value.pointedText
  | .text value => "string ".toList ++ Text.inQuotes value

end Scalar
end LoginGate.Environment
