/-!
# Double-precision numbers, exactly

A data file may hold numbers with a fraction or an exponent. The
configuration has no use for them, but a complaint that meets one shows
it, so their value matters to the last digit. `Binary64` is a
double-precision number as the integers it consists of – a sign, a
significand below `2 ^ 53` and a power of two – and every operation here
is exact integer arithmetic followed by one rounding, `ofRatio`, which
takes the nearest double and on a tie the one with the even significand.
-/

namespace DocSite.Number

/-- **A double-precision number.** -/
inductive Binary64 where
  /-- The number `± significand * 2 ^ exponent`. -/
  | finite (negative : Bool) (significand : Nat) (exponent : Int)
  /-- Too large for a finite double. -/
  | infinite (negative : Bool)
  /-- Not a number. -/
  | nan
deriving DecidableEq

namespace Binary64

/-- The least exponent of a double. -/
def minExponent : Int := -1074

/-- The largest exponent of a double. -/
def maxExponent : Int := 971

/-- The quotient rounded to the nearest integer, a tie to the even
one. -/
def roundDiv (numerator denominator : Nat) : Nat :=
  let quotient := numerator / denominator
  let twice := 2 * (numerator % denominator)
  if twice < denominator then quotient
  else if denominator < twice then quotient + 1
  else quotient + quotient % 2

/-- Moves a power of two into the numerator or the denominator. -/
def scaleRatio (numerator denominator : Nat) (exponent : Int) : Nat × Nat :=
  if exponent < 0 then (numerator * Nat.pow 2 exponent.natAbs, denominator)
  else (numerator, denominator * Nat.pow 2 exponent.natAbs)

/-- The integer part of the binary logarithm of a positive ratio. -/
def log2Ratio (numerator denominator : Nat) : Int :=
  let guess : Int := (Nat.log2 numerator : Int) - (Nat.log2 denominator : Int)
  let (n, d) := scaleRatio numerator denominator guess
  if d ≤ n then guess else guess - 1

/-- **The double nearest to a ratio** of natural numbers, the
denominator positive. -/
def ofRatio (negative : Bool) (numerator denominator : Nat) : Binary64 :=
  if numerator = 0 then .finite negative 0 minExponent
  else
    let exponent := max (log2Ratio numerator denominator - 52) minExponent
    let (n, d) := scaleRatio numerator denominator exponent
    let significand := roundDiv n d
    let (significand, exponent) :=
      if significand = 0x20000000000000 then (0x10000000000000, exponent + 1)
      else (significand, exponent)
    if maxExponent < exponent then .infinite negative
    else .finite negative significand exponent

/-- The absolute value of a finite double as a ratio. -/
def ratio (significand : Nat) (exponent : Int) : Nat × Nat :=
  if exponent < 0 then (significand, Nat.pow 2 exponent.natAbs)
  else (significand * Nat.pow 2 exponent.natAbs, 1)

/-- How many decimal digits a number has. -/
def digitCount (n : Nat) : Nat :=
  (Nat.toDigits 10 n).length

/-- **The double nearest to a decimal** `digits * 10 ^ exponent`. A
decimal far outside the range of doubles is told by its order of
magnitude alone, so that no huge power is computed. -/
def ofDecimal (negative : Bool) (digits : Nat) (exponent : Int) : Binary64 :=
  let magnitude : Int := exponent + digitCount digits
  if digits = 0 then .finite negative 0 minExponent
  else if 400 < magnitude then .infinite negative
  else if magnitude < -400 then .finite negative 0 minExponent
  else if exponent < 0 then ofRatio negative digits (Nat.pow 10 exponent.natAbs)
  else ofRatio negative (digits * Nat.pow 10 exponent.natAbs) 1

/-- The other sign. -/
def negate : Binary64 → Binary64
  | .finite negative significand exponent => .finite (!negative) significand exponent
  | .infinite negative => .infinite (!negative)
  | .nan => .nan

/-- The product of two non-negative doubles, rounded. -/
def timesNonneg : Binary64 → Binary64 → Binary64
  | .finite _ m p, .finite _ n q =>
    let (a, b) := ratio m p
    let (c, d) := ratio n q
    ofRatio false (a * c) (b * d)
  | _, _ => .infinite false

/-- The quotient of a non-negative and a positive double, rounded. -/
def dividedNonneg : Binary64 → Binary64 → Binary64
  | .finite _ m p, .finite _ n q =>
    let (a, b) := ratio m p
    let (c, d) := ratio n q
    ofRatio false (a * d) (b * c)
  | x, _ => x

/-- Whether the number is zero, of either sign. -/
def isZero : Binary64 → Bool
  | .finite _ significand _ => significand == 0
  | _ => false

/-- Whether the number is infinite. -/
def isInfinite : Binary64 → Bool
  | .infinite _ => true
  | _ => false

end Binary64

end DocSite.Number
