import LoginGate.Text.Classes

/-!
Contract: natural numbers as digits in a base, most significant digit first.

Owns: writing in base ten and in fixed-width or plain hexadecimal, and reading in any base up to 36.
Does not own: signs, fractions and exponents (`Json.Literal`).
-/

namespace LoginGate.Text

def ofNat (n : Nat) : Text := Nat.toDigits 10 n

def ofInt : Int -> Text
  | .ofNat n => ofNat n
  | .negSucc n => '-' :: ofNat (n + 1)

def hexOfNat (n : Nat) : Text := Nat.toDigits 16 n

def padZeros (width : Nat) (digits : Text) : Text :=
  List.replicate (width - digits.length) '0' ++ digits

/-- The value of a text of digits, all of them below the base; the empty text has the value zero. -/
def digitsValue? (base : Nat) (digits : Text) : Option Nat :=
  digits.foldlM (fun value c => (digitValue? base c).map (value * base + ·)) 0

def toNat? (base : Nat) (digits : Text) : Option Nat :=
  if digits.isEmpty then none else digitsValue? base digits

def upperHexByte (byte : UInt8) : Text :=
  (padZeros 2 (hexOfNat byte.toNat)).map asciiUpper

end LoginGate.Text
