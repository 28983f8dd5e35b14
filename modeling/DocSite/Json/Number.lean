import DocSite.Data.Basic

/-!
# Numbers in JSON

A number is a whole part, a fraction or none and an exponent or none. A
number without fraction and exponent is an integer if it fits in 64
bits, signed or unsigned. Every other number is taken as a double in two
steps: as many of its digits as fit in 64 bits make up an integer, the
rest is dropped, and the integer is scaled by a power of ten – each step
rounded, so that the last digit may differ from that of the nearest
double. Scaling beyond all doubles is a fault that skipping does not
notice, for it never computes the value.
-/

namespace DocSite.Json

open DocSite.Number (Binary64)

/-- **The parts of a number as written.** -/
structure Literal where
  /-- Whether a minus sign stands in front. -/
  negative : Bool
  /-- The digits in front of the point. -/
  whole : List Char
  /-- The digits behind the point, none if there is no point. -/
  fraction : List Char
  /-- The sign of the exponent, negative or not, and its digits. -/
  exponent : Option (Bool × List Char)

/-- A decimal digit. -/
def isDigit (c : Char) : Bool :=
  '0' ≤ c && c ≤ '9'

/-- An exponent or none. -/
def exponent? : List Char → Option (Option (Bool × List Char) × List Char)
  | [] => some (none, [])
  | c :: rest =>
    if c = 'e' || c = 'E' then
      let (negative, rest) := match rest with
        | '+' :: rest => (false, rest)
        | '-' :: rest => (true, rest)
        | rest => (false, rest)
      let digits := rest.takeWhile isDigit
      if digits.isEmpty then none else some (some (negative, digits), rest.dropWhile isDigit)
    else some (none, c :: rest)

/-- **The parts of the number at the front of a text.** -/
def literal? (text : List Char) : Option (Literal × List Char) :=
  let (negative, text) := match text with
    | '-' :: rest => (true, rest)
    | rest => (false, rest)
  let whole := text.takeWhile isDigit
  let rest := text.dropWhile isDigit
  if whole.isEmpty || (whole.length != 1 && whole.head? == some '0') then none
  else match rest with
    | '.' :: rest =>
      let fraction := rest.takeWhile isDigit
      if fraction.isEmpty then none
      else (exponent? (rest.dropWhile isDigit)).map fun (e, rest) =>
        (⟨negative, whole, fraction, e⟩, rest)
    | rest => (exponent? rest).map fun (e, rest) => (⟨negative, whole, [], e⟩, rest)

/-- The value of decimal digits. -/
def digitsValue (digits : List Char) : Nat :=
  digits.foldl (fun n c => 10 * n + (c.toNat - '0'.toNat)) 0

/-- Appends digits to a number as long as it stays below `2 ^ 64`; gives
the number and how many digits were left. -/
def absorb : Nat → List Char → Nat × Nat
  | n, [] => (n, 0)
  | n, c :: rest =>
    let m := 10 * n + (c.toNat - '0'.toNat)
    if m < 0x10000000000000000 then absorb m rest else (n, rest.length + 1)

/-- A power of ten as a double. -/
def power10 (k : Nat) : Binary64 :=
  .ofDecimal false 1 k

/-- **A double scaled by a power of ten**, by at most `10 ^ 308` at a
time; `none` if it grows beyond all doubles. Four steps bring every
number to zero, so the recursion stops there. -/
def scale : (steps : Nat) → Binary64 → Int → Option Binary64
  | 0, _, _ => some (.ofRatio false 0 1)
  | steps + 1, x, exponent =>
    if exponent.natAbs ≤ 308 then
      if exponent < 0 then some (x.dividedNonneg (power10 exponent.natAbs))
      else
        let y := x.timesNonneg (power10 exponent.natAbs)
        if y.isInfinite then none else some y
    else if x.isZero then some x
    else if 0 ≤ exponent then none
    else scale steps (x.dividedNonneg (power10 308)) (exponent + 308)

/-- Applies the sign of a literal. -/
def withSign (negative : Bool) (x : Binary64) : Binary64 :=
  if negative then x.negate else x

/-- A number within 32 bits, cut off at the ends. -/
def saturate (exponent : Int) : Int :=
  max (-0x80000000) (min 0x7FFFFFFF exponent)

/-- The double that a literal writes, in two steps. -/
def Literal.double? (l : Literal) : Option Binary64 :=
  let (whole, wholeLeft) := absorb 0 l.whole
  let (digits, fractionLeft) := absorb whole l.fraction
  let start : Int := (wholeLeft : Int) - (l.fraction.length - fractionLeft : Nat)
  let scaled := match l.exponent with
    | none => scale 5 (.ofRatio false digits 1) start
    | some (negative, exponent) =>
      let e := digitsValue exponent
      if 0x80000000 ≤ e then
        if digits ≠ 0 ∧ !negative then none else some (.ofRatio false 0 1)
      else
        scale 5 (.ofRatio false digits 1)
          (saturate (if negative then start - (e : Int) else start + (e : Int)))
  scaled.map (withSign l.negative)

/-- **The value of a number.** -/
def Literal.data (l : Literal) : Data :=
  let n := digitsValue l.whole
  let isInteger := l.fraction.isEmpty && l.exponent.isNone && n < 0x10000000000000000
    && !(l.negative && (n == 0 || 0x8000000000000000 < n))
  if isInteger then .integer (if l.negative then -(n : Int) else n)
  else match l.double? with
    | some x => .float x
    | none => .fault true

end DocSite.Json
