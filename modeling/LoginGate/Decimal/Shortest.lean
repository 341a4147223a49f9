import LoginGate.Decimal.Double
import LoginGate.Text.Numeral

/-!
Contract: the shortest decimal that reads back as a given floating-point number.

Owns: the interval of reals that round to a number, and the search for the fewest digits in it.
Does not own: how digits and exponent are written (`Json.Basic`).

On the grid of decimals with a given number of digits only the two neighbours of the number can be
in its interval and nearest to it, so the search looks at these two, one digit more each time.
-/

namespace LoginGate.Decimal

/-- Decimal digits, the first of them not zero, and the power of ten of the first digit. -/
structure Digits where
  digits : Text
  exponent : Int
deriving DecidableEq, Repr

/-- The exponent of the largest power of ten that is not above a positive quotient. -/
def floorLog10 (numerator denominator : Nat) : Int :=
  if denominator ≤ numerator then (Text.ofNat (numerator / denominator)).length - 1
  else
    let inverse := (denominator + numerator - 1) / numerator
    Int.neg (Text.ofNat (inverse - 1)).length

/-- The reals that round to a positive number, in quarters of the unit of its significand: the
number lies at `4 * significand`, and both ends belong to the interval when the significand is
even. Below a power of two the numbers are twice as dense. -/
def interval (x : Double) : Nat × Nat :=
  let below := if x.significand = Nat.pow 2 52 ∧ -1074 < x.exponent then 1 else 2
  (4 * x.significand - below, 4 * x.significand + 2)

def readsBack (x : Double) (candidate : Nat) (power : Int) : Bool :=
  let (low, high) := interval x
  -- compared in units of a quarter of the last binary digit
  let binary := x.exponent - 2
  let value := candidate * Nat.pow 10 power.toNat * Nat.pow 2 (-binary).toNat
  let unit := Nat.pow 10 (-power).toNat * Nat.pow 2 binary.toNat
  if x.significand % 2 = 0 then low * unit ≤ value && value ≤ high * unit
  else low * unit < value && value < high * unit

/-- The nearer of the two neighbours with a number of digits that reads back; of two at the same
distance, the even one. -/
def nearest? (x : Double) (exponent : Int) (count : Nat) : Option (Nat × Int) :=
  let power := exponent - (count - 1 : Nat)
  let (n, d) := x.magnitude
  let n := n * Nat.pow 10 (-power).toNat
  let d := d * Nat.pow 10 power.toNat
  let below := n / d
  let twice := 2 * (n % d)
  let nearFirst :=
    if twice < d || (twice == d && below % 2 == 0) then [below, below + 1] else [below + 1, below]
  (nearFirst.find? (readsBack x · power)).map fun candidate => (candidate, power)

/-- The shortest digits of a number that is not zero; seventeen digits always suffice. -/
def shortest (x : Double) : Digits :=
  let (n, d) := x.magnitude
  let exponent := floorLog10 n d
  match (List.range 17).findSome? fun i => nearest? x exponent (i + 1) with
  | some (candidate, power) =>
    let digits := Text.ofNat candidate
    { digits := Text.trimEnd (· == '0') digits, exponent := power + (digits.length - 1 : Nat) }
  | none => { digits := ['0'], exponent := 0 }

end LoginGate.Decimal
