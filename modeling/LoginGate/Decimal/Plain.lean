import LoginGate.Decimal.Shortest

/-!
Contract: decimal numbers as people write them outside of JSON.

Owns:
- the reader, which also knows infinities and the result of an undefined operation by name;
- the text without an exponent;
- the nearest integer within a range.

Does not own: JSON numbers (`Json.Basic`, `Json.Literal`).
-/

namespace LoginGate.Decimal

inductive Extended where
  | finite (x : Double)
  | infinite (negative : Bool)
  | notANumber
deriving DecidableEq, Repr

namespace Extended

/-! ## Reading -/

/-- The number nearest to `digits * 10 ^ exponent`, infinite when that is too large. Exponents far
out of range are decided by the place of the first digit, without computing their power of ten. -/
def nearest (negative : Bool) (digits : Text) (exponent : Int) : Extended :=
  let digits := Text.trimStart (· == '0') digits
  let value := (Text.digitsValue? 10 digits).getD 0
  let place := exponent + digits.length
  if digits.isEmpty || place < -400 then .finite (.zero negative)
  else if 400 < place then .infinite negative
  else
    match Double.ofQuotient? negative (value * Nat.pow 10 exponent.toNat)
        (Nat.pow 10 (-exponent).toNat) with
    | some x => .finite x
    | none => .infinite negative

/-- Takes a sign from the front of a text; tells whether it is a minus. -/
def cutSign (text : Text) : Bool × Text :=
  match text with
  | '-' :: rest => (true, rest)
  | '+' :: rest => (false, rest)
  | _ => (false, text)

def exponent? (text : Text) : Option Int :=
  match text with
  | [] => some 0
  | e :: rest =>
    if Text.asciiLower e = 'e' then
      let (negative, digits) := cutSign rest
      (Text.toNat? 10 digits).map fun (n : Nat) => if negative then -(n : Int) else n
    else none

/-- Reads digits with an optional point, at least one digit in all, and an optional exponent. -/
def unsigned? (negative : Bool) (text : Text) : Option Extended :=
  let (whole, rest) := Text.breakAt (! Text.isDigit ·) text
  let (fraction, rest) :=
    match rest with
    | '.' :: rest => Text.breakAt (! Text.isDigit ·) rest
    | _ => ([], rest)
  if whole.isEmpty && fraction.isEmpty then none
  else (exponent? rest).map fun exponent =>
    nearest negative (whole ++ fraction) (exponent - fraction.length)

/-- Reads a number with an optional sign. The names of the numbers that are not finite are read in
either letter case. -/
def read? (text : Text) : Option Extended :=
  let (negative, rest) := cutSign text
  let name := Text.toAsciiLower rest
  if name = "inf".toList ∨ name = "infinity".toList then some (.infinite negative)
  else if name = "nan".toList then some .notANumber
  else unsigned? negative rest

/-! ## Writing -/

/-- Digits without an exponent, and with a point only when there are digits behind it. -/
def plainDigits (shortest : Digits) : Text :=
  let { digits, exponent } := shortest
  if exponent < 0 then "0.".toList ++ List.replicate (-exponent - 1).toNat '0' ++ digits
  else
    let whole := exponent.toNat + 1
    let fraction := digits.drop whole
    digits.take whole ++ List.replicate (whole - digits.length) '0' ++
      (if fraction.isEmpty then [] else '.' :: fraction)

/-- The shortest text of a number, without an exponent. -/
def text : Extended -> Text
  | .finite x =>
    (if x.negative then ['-'] else []) ++
      (if x.isZero then ['0'] else plainDigits (Decimal.shortest x))
  | .infinite negative => if negative then "-inf".toList else "inf".toList
  | .notANumber => "NaN".toList

/-- The same text with `.0` behind a finite number that is whole. -/
def pointedText (value : Extended) : Text :=
  match value with
  | .finite _ => if value.text.contains '.' then value.text else value.text ++ ".0".toList
  | _ => value.text

/-! ## Integers -/

/-- The nearest integer from `low` to `high`, a tie away from zero; zero for what is not a
number. -/
def toInteger (low high : Int) : Extended -> Int
  | .finite x => max low (min high x.roundAway)
  | .infinite negative => if negative then low else high
  | .notANumber => 0

def isZero : Extended -> Bool
  | .finite x => x.isZero
  | _ => false

end Extended
end LoginGate.Decimal
