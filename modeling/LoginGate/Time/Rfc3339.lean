import LoginGate.Text.Numeral
import LoginGate.Time.Instant

/-!
Contract: dates with time and offset as text.

Owns: the writer, in universal time with as many digits of the fraction as needed in groups of
three, and the reader, which allows blanks between the parts and offsets in several forms.

Does not own: other calendars or named zones.
-/

namespace LoginGate.Rfc3339

/-! ## Writing -/

/-- A year with four digits, or with a sign when it needs more. -/
def yearText (year : Int) : Text :=
  let digits := Text.padZeros 4 (Text.ofNat year.natAbs)
  if 0 ≤ year ∧ year ≤ 9999 then digits
  else (if year < 0 then '-' else '+') :: digits

def twoDigits (n : Nat) : Text := Text.padZeros 2 (Text.ofNat n)

/-- A fraction of a second with three, six or nine digits, or nothing. -/
def fractionText (nanos : Nat) : Text :=
  if nanos = 0 then []
  else if nanos % 1000000 = 0 then '.' :: Text.padZeros 3 (Text.ofNat (nanos / 1000000))
  else if nanos % 1000 = 0 then '.' :: Text.padZeros 6 (Text.ofNat (nanos / 1000))
  else '.' :: Text.padZeros 9 (Text.ofNat nanos)

def text (instant : Instant) : Text :=
  let (year, month, day) := Instant.dateOfDay (instant.seconds / 86400)
  let second := (instant.seconds % 86400).toNat
  let leap := instant.nanos / 1000000000
  yearText year ++ '-' :: twoDigits month ++ '-' :: twoDigits day ++
    'T' :: twoDigits (second / 3600) ++ ':' :: twoDigits (second / 60 % 60) ++
    ':' :: twoDigits (second % 60 + leap) ++ fractionText (instant.nanos % 1000000000) ++ ['Z']

/-! ## Reading -/

inductive ParseError where
  | outOfRange
  | impossible
  | invalid
  | tooShort
  | tooLong
deriving DecidableEq, Repr

def ParseError.message : ParseError -> Text
  | .outOfRange => "input is out of range".toList
  | .impossible => "no possible date and time matching input".toList
  | .invalid => "input contains invalid characters".toList
  | .tooShort => "premature end of input".toList
  | .tooLong => "trailing input".toList

def readDigits (width : Nat) (text : Text) : Except ParseError (Text × Text) :=
  let digits := (text.takeWhile Text.isDigit).take width
  if text.isEmpty then .error .tooShort
  else if digits.isEmpty then .error .invalid
  else .ok (digits, text.drop digits.length)

def valueOf (digits : Text) : Nat := (Text.digitsValue? 10 digits).getD 0

/-- Skips blanks and reads one or two digits with a value in a range. -/
def readField (low high : Nat) (text : Text) : Except ParseError (Nat × Text) := do
  let (digits, rest) <- readDigits 2 (Text.trimStart Text.isWhitespace text)
  if low ≤ valueOf digits ∧ valueOf digits ≤ high then return (valueOf digits, rest)
  else throw .outOfRange

/-- Skips blanks and reads a year of at most four digits, or of any number of digits after a
sign. -/
def readYear (text : Text) : Except ParseError (Int × Text) := do
  let (year, rest) <-
    match Text.trimStart Text.isWhitespace text with
    | '-' :: digits => do
      let (digits, rest) <- readDigits digits.length digits
      pure (-(valueOf digits : Int), rest)
    | '+' :: digits => do
      let (digits, rest) <- readDigits digits.length digits
      pure ((valueOf digits : Int), rest)
    | digits => do
      let (digits, rest) <- readDigits 4 digits
      pure ((valueOf digits : Int), rest)
  if Word.minSigned32 ≤ year ∧ year ≤ Word.maxSigned32 then return (year, rest)
  else throw .outOfRange

def readMark (mark : Char) (text : Text) : Except ParseError Text :=
  match Text.trimStart Text.isWhitespace text with
  | [] => .error .tooShort
  | c :: rest => if c = mark then .ok rest else .error .invalid

/-- Reads a fraction if there is one; digits behind the ninth are dropped. -/
def readFraction (text : Text) : Except ParseError (Nat × Text) :=
  match text with
  | '.' :: digits => do
    let (fraction, rest) <- readDigits 9 digits
    return (valueOf fraction * Nat.pow 10 (9 - fraction.length), rest.dropWhile Text.isDigit)
  | _ => .ok (0, text)

def readOffsetDigits (text : Text) : Except ParseError (Int × Text) :=
  match text with
  | h1 :: h2 :: rest =>
    if !(Text.isDigit h1 && Text.isDigit h2) then .error .invalid
    else
      match rest.dropWhile fun c => c == ':' || Text.isWhitespace c with
      | m1 :: m2 :: rest =>
        if !(Text.isDigit m1 && Text.isDigit m2) then .error .invalid
        else if 60 ≤ valueOf [m1, m2] then .error .outOfRange
        else .ok ((valueOf [h1, h2] * 3600 + valueOf [m1, m2] * 60 : Nat), rest)
      | _ => .error .tooShort
  | _ => .error .tooShort

/-- The mathematical minus sign, which an offset may have. -/
def minusSign : Char := Char.ofNat 0x2212

def readOffset (text : Text) : Except ParseError (Int × Text) :=
  if Text.equalIgnoringCase (text.take 3) "UTC".toList then .ok (0, text.drop 3)
  else
    match text with
    | [] => .error .tooShort
    | c :: rest =>
      if c = 'Z' ∨ c = 'z' then .ok (0, rest)
      else if c = '+' then readOffsetDigits rest
      else if c = '-' ∨ c = minusSign then
        (readOffsetDigits rest).map fun (offset, rest) => (-offset, rest)
      else .error .invalid

def parse (text : Text) : Except ParseError Instant := do
  let (year, rest) <- readYear text
  let (month, rest) <- readField 1 12 (<- readMark '-' rest)
  let (day, rest) <- readField 1 31 (<- readMark '-' rest)
  let rest <-
    match rest with
    | [] => throw .tooShort
    | c :: rest => if c = 'T' ∨ c = 't' ∨ c = ' ' then pure rest else throw .invalid
  let (hour, rest) <- readField 0 23 rest
  let (minute, rest) <- readField 0 59 (<- readMark ':' rest)
  let (second, rest) <- readField 0 60 (<- readMark ':' rest)
  let (fraction, rest) <- readFraction rest
  let (offset, rest) <- readOffset (Text.trimStart Text.isWhitespace rest)
  if !Text.isBlank rest then throw .tooLong
  if !Instant.isYearInRange year || Instant.daysInMonth year month < day then throw .outOfRange
  if 86400 ≤ offset.natAbs then throw .outOfRange
  let leap := if second = 60 then 1 else 0
  let daySeconds := hour * 3600 + minute * 60 + (second - leap)
  let instant : Instant :=
    { seconds := Instant.dayNumber year month day * 86400 + daySeconds - offset
      nanos := fraction + leap * 1000000000 }
  if instant.inRange then return instant else throw .impossible

end LoginGate.Rfc3339
