import LoginGate.Json.Cursor
import LoginGate.Word

/-!
Contract: the strings and numbers of a JSON text.

Owns:
- escapes, among them pairs of surrogates, and the check that a string is well-formed UTF-8;
- the value of a number, exact for integers of 64 bits and else a floating-point number.

Does not own: arrays and objects (`Json.Reader`).
-/

namespace LoginGate.Json

/-! ## Strings -/

/-- What an escape means, and how many bytes behind the backslash it takes; or what is wrong, and
how many bytes behind the backslash that shows. -/
abbrev EscapeResult := Except (Cause × Nat) (Char × Nat)

def fourHex (bytes : Bytes) : Except (Cause × Nat) Nat :=
  match bytes with
  | a :: b :: c :: d :: _ =>
    match Text.digitsValue? 16 ([a, b, c, d].map fun byte => Char.ofNat byte.toNat) with
    | some value => .ok value
    | none => .error (.invalidEscape, 4)
  | _ => .error (.endInString, bytes.length)

def shifted {α : Type} (offset : Nat) : Except (Cause × Nat) α -> Except (Cause × Nat) α
  | .ok value => .ok value
  | .error (cause, at_) => .error (cause, at_ + offset)

/-- The escape whose digits follow `\u`. A high surrogate needs a second escape with a low one. -/
def unicodeEscape (bytes : Bytes) : EscapeResult := do
  let first <- fourHex bytes
  if 0xDC00 ≤ first ∧ first ≤ 0xDFFF then throw (.loneSurrogate, 4)
  if first < 0xD800 ∨ 0xDBFF < first then return (Char.ofNat first, 4)
  match bytes.drop 4 with
  | [] => throw (.endInString, 4)
  | backslash :: rest =>
    if backslash ≠ 0x5C then throw (.unexpectedEscapeEnd, 5)
    match rest with
    | [] => throw (.endInString, 5)
    | letter :: rest =>
      if letter ≠ 0x75 then throw (.unexpectedEscapeEnd, 6)
      let second <- shifted 6 (fourHex rest)
      if second < 0xDC00 ∨ 0xDFFF < second then throw (.loneSurrogate, 10)
      return (Char.ofNat (0x10000 + (first - 0xD800) * 0x400 + (second - 0xDC00)), 10)

def escape (bytes : Bytes) : EscapeResult :=
  match bytes with
  | [] => .error (.endInString, 0)
  | letter :: rest =>
    match Char.ofNat letter.toNat with
    | '"' => .ok ('"', 1)
    | '\\' => .ok ('\\', 1)
    | '/' => .ok ('/', 1)
    | 'b' => .ok (Char.ofNat 8, 1)
    | 'f' => .ok (Char.ofNat 12, 1)
    | 'n' => .ok ('\n', 1)
    | 'r' => .ok ('\r', 1)
    | 't' => .ok ('\t', 1)
    | 'u' => (shifted 1 (unicodeEscape rest)).map fun (c, used) => (c, used + 1)
    | _ => .error (.invalidEscape, 1)

/-- Reads a string from behind its opening quote to behind its closing one. `decoded` holds, in
reverse order, the bytes read so far. -/
def stringBytes (line column : Nat) (decoded : Bytes) (bytes : Bytes) :
    Except ReadError (Bytes × Cursor) :=
  match bytes with
  | [] => .error { cause := .endInString, place := some (line, column) }
  | byte :: rest =>
    if byte = 0x22 then .ok (decoded.reverse, { rest, line, column := column + 1 })
    else if byte = 0x5C then
      match escape rest with
      | .error (cause, offset) => .error { cause, place := some (line, column + 1 + offset) }
      | .ok (c, used) =>
        stringBytes line (column + 1 + used) ((Utf8.encodeChar c).reverse ++ decoded)
          (rest.drop used)
    else if byte < 0x20 then
      .error (Cursor.errorNext { rest := bytes, line, column } .controlInString)
    else stringBytes line (column + 1) (byte :: decoded) rest
termination_by bytes.length
decreasing_by all_goals (simp only [List.length_cons, List.length_drop]; omega)

/-- Reads a string from behind its opening quote. A byte that does not belong to a character is an
error at its own place. -/
def readString (cursor : Cursor) : Except ReadError (Text × Cursor) := do
  let (bytes, after) <- stringBytes cursor.line cursor.column [] cursor.rest
  match Utf8.decode? bytes with
  | some text => return (text, after)
  | none =>
    throw {
      cause := .invalidCodePoint
      place := some (cursor.line, cursor.column + Utf8.validLength bytes + 1) }

/-! ## Numbers -/

def readDigits (cursor : Cursor) : Text × Cursor :=
  let digits := cursor.rest.takeWhile fun byte => 0x30 ≤ byte && byte ≤ 0x39
  (digits.map fun byte => Char.ofNat byte.toNat, cursor.advanceBy digits.length)

/-- Appends digits to a significand as long as it fits into 64 bits; gives the significand, how
many digits went in, and how many did not. -/
def absorb (significand : Nat) : Text -> Nat × Nat × Nat
  | [] => (significand, 0, 0)
  | c :: digits =>
    let next := significand * 10 + (c.toNat - '0'.toNat)
    if next ≤ Word.maxUnsigned64 then
      let (final, taken, left) := absorb next digits
      (final, taken + 1, left)
    else (significand, 0, digits.length + 1)

/-- A significand times a power of ten, each of them rounded before the product or quotient is.
Steps of `10 ^ 308` bring a small exponent into range. -/
def scaleByTen? (x : Double) (exponent : Int) : Option Double :=
  if exponent.natAbs ≤ 308 then do
    let power <- Double.ofQuotient? false (Nat.pow 10 exponent.natAbs) 1
    if 0 ≤ exponent then x.mul? power else x.div? power
  else if x.isZero then some x
  else if 0 ≤ exponent then none
  else do
    let power <- Double.ofQuotient? false (Nat.pow 10 308) 1
    let smaller <- x.div? power
    scaleByTen? smaller (exponent + 308)
termination_by exponent.natAbs
decreasing_by omega

structure NumberParts where
  negative : Bool
  whole : Text
  fraction : Option Text
  exponent : Option (Bool × Text)
deriving DecidableEq, Repr

/-- The written exponent, cut off at 32 bits. -/
def saturated (exponent : Int) : Int :=
  max Word.minSigned32 (min Word.maxSigned32 exponent)

/-- The value of a number; `none` when it is too large. -/
def NumberParts.value? (parts : NumberParts) : Option Number :=
  let (significand, _, omitted) := absorb 0 parts.whole
  match parts.fraction, parts.exponent with
  | none, none =>
    if omitted = 0 then
      if !parts.negative then some (.integer significand)
      else if significand ≠ 0 ∧ significand ≤ Word.minSigned64.natAbs then
        some (.integer (-significand))
      else (Double.ofQuotient? true significand 1).map .float
    else floating significand omitted
  | fraction, exponent =>
    let (significand, taken, _) := absorb significand (fraction.getD [])
    let place : Int := (omitted : Int) - taken
    match exponent with
    | none => floating significand place
    | some (down, digits) =>
      let written := ((Text.digitsValue? 10 digits).getD 0 : Int)
      if Word.maxSigned32 < written then
        if significand = 0 ∨ down then some (.float (.zero parts.negative)) else none
      else floating significand (saturated (if down then place - written else place + written))
where
  /-- The floating-point number with a significand and an exponent of ten. -/
  floating (significand : Nat) (exponent : Int) : Option Number := do
    let x <- Double.ofQuotient? false significand 1
    let scaled <- scaleByTen? x exponent
    return .float { scaled with negative := parts.negative }

/-- Reads the digits before the point; a zero stands alone. -/
def readWhole (cursor : Cursor) : Except ReadError (Text × Cursor) :=
  match cursor.peek with
  | none => .error (cursor.errorHere .endInValue)
  | some c =>
    if c = '0' then
      let after := cursor.advance
      if (after.peek.map Text.isDigit).getD false then .error (after.errorNext .invalidNumber)
      else .ok (['0'], after)
    else if Text.isDigit c then .ok (readDigits cursor)
    else .error (cursor.errorNext .invalidNumber)

def readFraction (cursor : Cursor) : Except ReadError (Option Text × Cursor) :=
  if cursor.peek = some '.' then
    let (digits, after) := readDigits cursor.advance
    if digits.isEmpty then
      .error (after.errorNext (if after.peek.isNone then .endInValue else .invalidNumber))
    else .ok (some digits, after)
  else .ok (none, cursor)

def readExponent (cursor : Cursor) : Except ReadError (Option (Bool × Text) × Cursor) :=
  if cursor.peek = some 'e' ∨ cursor.peek = some 'E' then
    let signed := cursor.advance
    let (down, digitsAt) :=
      match signed.peek with
      | some '+' => (false, signed.advance)
      | some '-' => (true, signed.advance)
      | _ => (false, signed)
    let (digits, after) := readDigits digitsAt
    if digits.isEmpty then
      if digitsAt.peek.isNone then .error (digitsAt.errorHere .endInValue)
      else .error (digitsAt.errorNext .invalidNumber)
    else .ok (some (down, digits), after)
  else .ok (none, cursor)

/-- Reads a number from its sign or first digit on. -/
def readNumber (cursor : Cursor) : Except ReadError (Number × Cursor) := do
  let negative := cursor.peek = some '-'
  let (whole, cursor) <- readWhole (if negative then cursor.advance else cursor)
  let (fraction, cursor) <- readFraction cursor
  let (exponent, cursor) <- readExponent cursor
  match NumberParts.value? { negative, whole, fraction, exponent } with
  | some value => return (value, cursor)
  | none => throw (cursor.errorHere .numberOutOfRange)

end LoginGate.Json
