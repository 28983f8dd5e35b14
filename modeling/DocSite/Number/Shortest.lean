import DocSite.Number.Binary64

/-!
# The shortest decimal of a double

A double is shown with the fewest digits that read back as it. The reals
that round to a double form an interval, its ends included exactly if
the significand is even; `shortest` looks for a point of the interval on
coarser and coarser grids of decimals, from one digit on, and of two
points on one grid takes the nearer. Seventeen digits always suffice.

The number is written without an exponent, however large or small it is,
and with `.0` when it is whole, so that it cannot be taken for an
integer.
-/

namespace DocSite.Number.Binary64

/-- **The reals that round to a double**, as two ratios over one
denominator around the value itself, and whether the ends belong to
it. -/
structure Interval where
  /-- Numerator of the lower end. -/
  low : Nat
  /-- Numerator of the double itself. -/
  value : Nat
  /-- Numerator of the upper end. -/
  high : Nat
  /-- The common denominator. -/
  denominator : Nat
  /-- Whether the ends round to the double too. -/
  closed : Bool

/-- The interval of a positive double. Below a power of two the
neighbours are twice as close as above it, except at the least
exponent. -/
def interval (significand : Nat) (exponent : Int) : Interval :=
  let below := if significand = 0x10000000000000 ∧ minExponent < exponent then 1 else 2
  let (value, denominator) := ratio (4 * significand) exponent
  let (unit, _) := ratio 1 exponent
  ⟨value - below * unit, value, value + 2 * unit, 4 * denominator, significand % 2 = 0⟩

/-- The decimal `digits * 10 ^ power` as a ratio. -/
def decimalRatio (digits : Nat) (power : Int) : Nat × Nat :=
  if power < 0 then (digits, Nat.pow 10 power.natAbs)
  else (digits * Nat.pow 10 power.natAbs, 1)

/-- Whether the decimal `digits * 10 ^ power` lies in the interval. -/
def Interval.holds (i : Interval) (digits : Nat) (power : Int) : Bool :=
  let (n, d) := decimalRatio digits power
  let point := n * i.denominator
  if i.closed then i.low * d ≤ point && point ≤ i.high * d
  else i.low * d < point && point < i.high * d

/-- How far the decimal is from the value, over a denominator that
depends on the power alone. -/
def Interval.distance (i : Interval) (digits : Nat) (power : Int) : Nat :=
  let (n, d) := decimalRatio digits power
  (n * i.denominator - i.value * d) + (i.value * d - n * i.denominator)

/-- The greatest power of ten that is not above the ratio. -/
def floorLog10 (numerator denominator : Nat) : Int :=
  let guess : Int := (digitCount numerator : Int) - digitCount denominator
  let reached := if guess < 0 then denominator ≤ numerator * Nat.pow 10 guess.natAbs
    else denominator * Nat.pow 10 guess.natAbs ≤ numerator
  if reached then guess else guess - 1

/-- The decimal of the interval on the coarsest grid that has one, with
at most `fuel` further digits. -/
def Interval.search (i : Interval) (magnitude : Int) : Nat → Nat → Nat × Int
  | 0, count =>
    let power := magnitude - count + 1
    let (n, d) := if power < 0 then (i.value * Nat.pow 10 power.natAbs, i.denominator)
      else (i.value, i.denominator * Nat.pow 10 power.natAbs)
    (n / d, power)
  | fuel + 1, count =>
    let power := magnitude - count + 1
    let (n, d) := if power < 0 then (i.value * Nat.pow 10 power.natAbs, i.denominator)
      else (i.value, i.denominator * Nat.pow 10 power.natAbs)
    let lower := n / d
    match i.holds lower power, i.holds (lower + 1) power with
    | true, true =>
      if i.distance (lower + 1) power < i.distance lower power then (lower + 1, power)
      else (lower, power)
    | true, false => (lower, power)
    | false, true => (lower + 1, power)
    | false, false => i.search magnitude fuel (count + 1)

/-- **The shortest decimal of a positive double**, as digits and a power
of ten. -/
def shortest (significand : Nat) (exponent : Int) : Nat × Int :=
  let i := interval significand exponent
  i.search (floorLog10 i.value i.denominator) 17 1

/-- A decimal without an exponent, with `.0` if it is whole. -/
def positional (digits : Nat) (power : Int) : List Char :=
  let text := Nat.toDigits 10 digits
  if 0 ≤ power then text ++ List.replicate power.natAbs '0' ++ ['.', '0']
  else
    let places := power.natAbs
    let padded := List.replicate (places + 1 - text.length) '0' ++ text
    let whole := padded.take (padded.length - places)
    let fraction := (padded.drop (padded.length - places)).reverse.dropWhile (· == '0')
    whole ++ '.' :: (if fraction.isEmpty then ['0'] else fraction.reverse)

/-- **How a double is shown.** -/
def text : Binary64 → String
  | .nan => "NaN"
  | .infinite negative => if negative then "-inf" else "inf"
  | .finite negative significand exponent =>
    let digits :=
      if significand = 0 then ['0', '.', '0']
      else
        let (digits, power) := shortest significand exponent
        positional digits power
    String.ofList (if negative then '-' :: digits else digits)

end DocSite.Number.Binary64
