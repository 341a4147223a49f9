/-!
Contract: binary floating-point numbers of 64 bits, by exact arithmetic on natural numbers.

Owns:
- the finite numbers, each in one form;
- rounding of a quotient to the nearest of them, ties to an even significand;
- products, quotients and the truncation to an integer.

Does not own: decimal text (`Decimal.Shortest`, `Json.Basic`).
-/

namespace LoginGate

/-- The number `significand * 2 ^ exponent` with a sign. The significand is below `2 ^ 53`, and
below `2 ^ 52` only with the least exponent, which is `-1074`. -/
structure Double where
  negative : Bool
  significand : Nat
  exponent : Int
deriving DecidableEq, Repr

namespace Double

def zero (negative : Bool) : Double := { negative, significand := 0, exponent := -1074 }

def isZero (x : Double) : Bool := x.significand == 0

/-- A quotient rounded to the nearest integer, a tie to the even one. -/
def roundQuotient (numerator denominator : Nat) : Nat :=
  let floor := numerator / denominator
  let twice := 2 * (numerator % denominator)
  if denominator < twice || (twice == denominator && floor % 2 == 1) then floor + 1 else floor

/-- Numerator and denominator of `numerator / (denominator * 2 ^ exponent)`. -/
def scaled (numerator denominator : Nat) (exponent : Int) : Nat × Nat :=
  (numerator * Nat.pow 2 (-exponent).toNat, denominator * Nat.pow 2 exponent.toNat)

/-- The exponent that gives a quotient 53 binary digits, or the least exponent. -/
def exponentOf (numerator denominator : Nat) : Int :=
  let guess : Int := (Nat.log2 numerator : Int) - Nat.log2 denominator - 52
  let (n, d) := scaled numerator denominator guess
  max (-1074) (if n < d * Nat.pow 2 52 then guess - 1 else guess)

/-- The number nearest to a quotient; `none` when it is too large for a finite number. -/
def ofQuotient? (negative : Bool) (numerator denominator : Nat) : Option Double :=
  if numerator = 0 then some (zero negative)
  else
    let exponent := exponentOf numerator denominator
    let (n, d) := scaled numerator denominator exponent
    let rounded := roundQuotient n d
    let (significand, exponent) :=
      if rounded = Nat.pow 2 53 then (Nat.pow 2 52, exponent + 1) else (rounded, exponent)
    if 971 < exponent then none else some { negative, significand, exponent }

def magnitude (x : Double) : Nat × Nat :=
  (x.significand * Nat.pow 2 x.exponent.toNat, Nat.pow 2 (-x.exponent).toNat)

def mul? (x y : Double) : Option Double :=
  let (a, b) := x.magnitude
  let (c, d) := y.magnitude
  ofQuotient? (x.negative != y.negative) (a * c) (b * d)

def div? (x y : Double) : Option Double :=
  let (a, b) := x.magnitude
  let (c, d) := y.magnitude
  ofQuotient? (x.negative != y.negative) (a * d) (b * c)

/-- The nearest integer, a tie away from zero. -/
def roundAway (x : Double) : Int :=
  let (n, d) := x.magnitude
  let rounded := (2 * n + d) / (2 * d)
  if x.negative then -(rounded : Int) else rounded

end Double
end LoginGate
