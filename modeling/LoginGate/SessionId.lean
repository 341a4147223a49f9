import LoginGate.Text.Numeral
import LoginGate.Text.Utf8

/-!
Contract: session ids, which are numbers of 128 bits written in base 32.

Owns: the alphabet, the written form with its mark, and its reader.
Does not own: how fresh numbers are drawn; they are inputs.
-/

namespace LoginGate

structure SessionId where
  bits : Nat
deriving DecidableEq, Repr

namespace SessionId

/-- The digits of base 32: digits and capitals without I, L, O and U. -/
def alphabet : Text := "0123456789ABCDEFGHJKMNPQRSTVWXYZ".toList

def count : Nat := Nat.pow 2 128

def width : Nat := 26

def mark : Text := "sess_".toList

inductive ParseError where
  | length
  | character
deriving DecidableEq, Repr

def ParseError.reason : ParseError -> Text
  | .length => "invalid length".toList
  | .character => "invalid character".toList

def ParseError.message (error : ParseError) : Text :=
  "failed to parse SessionId: ".toList ++ error.reason

def digit (value : Nat) : Char := alphabet.getD value '0'

def digitValue? (c : Char) : Option Nat := alphabet.findIdx? (· == Text.asciiUpper c)

/-- A number as a count of base 32 digits, the least significant ones. -/
def digits : (count : Nat) -> Nat -> Text
  | 0, _ => []
  | count + 1, n => digits count (n / 32) ++ [digit (n % 32)]

def bareText (id : SessionId) : Text := digits width id.bits

def text (id : SessionId) : Text := mark ++ id.bareText

/-- Reads 26 digits. Bits above the 128th are dropped. -/
def parseBare (text : Text) : Except ParseError SessionId :=
  if (Utf8.encode text).length ≠ width then .error .length
  else
    match text.mapM digitValue? with
    | none => .error .character
    | some values =>
      .ok { bits := values.foldl (fun value digit => value * 32 + digit) 0 % count }

/-- Reads an id with or without its mark. -/
def parse (text : Text) : Except ParseError SessionId :=
  parseBare ((Text.afterPrefix? mark text).getD text)

end SessionId
end LoginGate
