import LoginGate.Word

/-!
Contract: points on the time line within the range of a calendar, and spans between them.

Owns:
- days of the proleptic Gregorian calendar as a count from the first of January 1970;
- instants and their addition with a span, which fails outside the calendar's range.

Does not own: time zones and text (`Time.Rfc3339`), and the current time, which is an input.
-/

namespace LoginGate

/-- A point in universal time: whole seconds since the start of 1970, and nanoseconds. A leap second
is the second before it with a billion nanoseconds or more. -/
structure Instant where
  seconds : Int
  nanos : Nat := 0
deriving DecidableEq, Repr

structure Span where
  nanos : Int
deriving DecidableEq, Repr

namespace Span

def ofSeconds (seconds : Int) : Span := { nanos := seconds * 1000000000 }

/-- The longest span, in milliseconds, in either direction. -/
def maxMillis : Int := Word.maxSigned64

/-- A number of minutes, unless that is longer than the longest span. -/
def ofMinutes? (minutes : Int) : Option Span :=
  if minutes.natAbs * 60 ≤ maxMillis.natAbs / 1000 then some (ofSeconds (minutes * 60)) else none

/-- The span of a duration that has no sign, unless it is longer than the longest span. -/
def ofDuration? (nanos : Nat) : Option Span :=
  if (nanos : Int) ≤ maxMillis * 1000000 then some { nanos } else none

end Span

namespace Instant

/-! ## Calendar -/

def isLeapYear (year : Int) : Bool :=
  year % 4 == 0 && (year % 100 != 0 || year % 400 == 0)

def daysInMonth (year : Int) (month : Nat) : Nat :=
  match month with
  | 2 => if isLeapYear year then 29 else 28
  | 4 | 6 | 9 | 11 => 30
  | _ => 31

/-- The days before the first of January of a year, from that of the year zero on. -/
def daysBeforeYear (year : Int) : Int :=
  365 * year + (year + 3) / 4 - (year + 99) / 100 + (year + 399) / 400

def daysBeforeMonth (year : Int) (month : Nat) : Nat :=
  ((List.range (month - 1)).map fun i => daysInMonth year (i + 1)).foldl (· + ·) 0

/-- The days from the first of January 1970 to a date. -/
def dayNumber (year : Int) (month day : Nat) : Int :=
  daysBeforeYear year - daysBeforeYear 1970 + daysBeforeMonth year month + (day - 1 : Nat)

/-- The year of a day. The quotient by the mean length of a year is at most one off. -/
def yearOfDay (day : Int) : Int :=
  let sinceZero := day + daysBeforeYear 1970
  let guess := sinceZero * 400 / 146097
  if sinceZero < daysBeforeYear guess then guess - 1
  else if daysBeforeYear (guess + 1) ≤ sinceZero then guess + 1
  else guess

def dateOfDay (day : Int) : Int × Nat × Nat :=
  let year := yearOfDay day
  let dayOfYear := (day - dayNumber year 1 1).toNat
  let month := ((List.range 12).filter fun i => daysBeforeMonth year (i + 1) ≤ dayOfYear).length
  (year, month, dayOfYear - daysBeforeMonth year month + 1)

/-! ## Range -/

def yearRange : Int × Int := (-262143, 262142)

def isYearInRange (year : Int) : Bool := yearRange.1 ≤ year && year ≤ yearRange.2

def inRange (instant : Instant) : Bool := isYearInRange (yearOfDay (instant.seconds / 86400))

def add? (instant : Instant) (span : Span) : Option Instant :=
  let nanos := (instant.nanos : Int) + span.nanos
  let sum : Instant :=
    { seconds := instant.seconds + nanos / 1000000000, nanos := (nanos % 1000000000).toNat }
  if sum.inRange then some sum else none

def since (instant start : Instant) : Span :=
  { nanos := (instant.seconds - start.seconds) * 1000000000 + instant.nanos - start.nanos }

def before (instant other : Instant) : Bool :=
  instant.seconds < other.seconds ||
    (instant.seconds == other.seconds && instant.nanos < other.nanos)

end Instant
end LoginGate
