import DocSite.Data.Basic
import DocSite.Toml.Quoted

/-!
# Numbers, dates and truth values in TOML

Everything that is neither a string nor bracketed is a run of letters,
digits and the signs `+ - . : _`, so a scalar is read by taking the run
(`word`) and recognising it as a whole. The one scalar that holds a
blank is a date and a time of day with a blank between them.

Integers have 64 bits. A decimal integer may have a sign and no leading
zero; the forms with `0x`, `0o` and `0b` have neither sign nor limit on
zeros. Underscores separate digits and stand between two of them.
Dates and times must exist: there is no thirtieth of February, and a
leap second is the only sixtieth.
-/

namespace DocSite.Toml

open DocSite.Number (Binary64)
open DocSite.Unicode (hexDigit?)

/-- A character of a scalar's run. -/
def isWord (c : Char) : Bool :=
  ('a' ≤ c && c ≤ 'z') || ('A' ≤ c && c ≤ 'Z') || ('0' ≤ c && c ≤ '9')
    || c == '_' || c == '+' || c == '-' || c == '.' || c == ':'

/-- A decimal digit. -/
def isDigit (c : Char) : Bool :=
  '0' ≤ c && c ≤ '9'

/-! ## Digits -/

/-- **The value of digits in a base**, with underscores between two
digits. `fresh` says that a digit must come next. -/
def digitsValue? (base : Nat) : (fresh : Bool) → (value : Nat) → List Char → Option Nat
  | fresh, value, [] => if fresh then none else some value
  | fresh, value, c :: rest =>
    if c = '_' then if fresh then none else digitsValue? base true value rest
    else match hexDigit? c with
      | some d => if d < base then digitsValue? base false (base * value + d) rest else none
      | none => none

/-- The value of at least one digit in a base. -/
def number? (base : Nat) (digits : List Char) : Option Nat :=
  digitsValue? base true 0 digits

/-- The value of decimal digits without a leading zero. -/
def plainNumber? : List Char → Option Nat
  | ['0'] => some 0
  | '0' :: _ => none
  | digits => number? 10 digits

/-- The sign in front of a number, as whether it is negative, and what
follows it. -/
def signed : List Char → Bool × List Char
  | '-' :: rest => (true, rest)
  | '+' :: rest => (false, rest)
  | rest => (false, rest)

/-- A number within the 64 bits of an integer. -/
def bounded? (value : Int) : Option Int :=
  if -0x8000000000000000 ≤ value ∧ value < 0x8000000000000000 then some value else none

/-- **An integer.** -/
def integer? : List Char → Option Int
  | '0' :: 'x' :: digits => do bounded? (← number? 16 digits)
  | '0' :: 'o' :: digits => do bounded? (← number? 8 digits)
  | '0' :: 'b' :: digits => do bounded? (← number? 2 digits)
  | word =>
    let (negative, digits) := signed word
    do
      let n ← plainNumber? digits
      bounded? (if negative then -(n : Int) else n)

/-- How many digits a run of digits and underscores has. -/
def countDigits (digits : List Char) : Nat :=
  digits.countP isDigit

/-- An exponent: the letter `e`, a sign or none, and digits. -/
def exponent? : List Char → Option Int
  | [] => none
  | c :: rest =>
    if c = 'e' || c = 'E' then
      let (negative, digits) := signed rest
      (number? 10 digits).map fun n => if negative then -(n : Int) else n
    else none

/-- A character that begins an exponent. -/
def isExponentMark (c : Char) : Bool :=
  c == 'e' || c == 'E'

/-- The double that a number in decimal digits is. A positive number beyond
all doubles is refused; a negative one is infinite. -/
def double? (negative : Bool) (digits : Nat) (exponent : Int) : Option Binary64 :=
  match Binary64.ofDecimal negative digits exponent with
  | .infinite false => none
  | value => some value

/-- **A number with a fraction, an exponent or both**, or one of the
words `inf` and `nan`. -/
def float? (word : List Char) : Option Binary64 :=
  let (negative, digits) := signed word
  if digits = ['i', 'n', 'f'] then some (.infinite negative)
  else if digits = ['n', 'a', 'n'] then some .nan
  else do
    let whole := digits.takeWhile fun c => c != '.' && !isExponentMark c
    let w ← plainNumber? whole
    match digits.drop whole.length with
    | '.' :: rest =>
      let fraction := rest.takeWhile fun c => !isExponentMark c
      let f ← number? 10 fraction
      let places := countDigits fraction
      let e ← match rest.drop fraction.length with
        | [] => some 0
        | tail => exponent? tail
      double? negative (w * Nat.pow 10 places + f) (e - places)
    | tail =>
      let e ← exponent? tail
      double? negative w e

/-! ## Dates and times -/

/-- The value of exactly so many digits, and the rest. -/
def fixedDigits? (count : Nat) (text : List Char) : Option (Nat × List Char) :=
  let digits := text.take count
  if digits.length = count ∧ digits.all isDigit then
    some (digits.foldl (fun n c => 10 * n + (c.toNat - '0'.toNat)) 0, text.drop count)
  else none

/-- The given character, and the rest. -/
def sign? (c : Char) : List Char → Option (List Char)
  | d :: rest => if c = d then some rest else none
  | [] => none

/-- A year with a twenty-ninth of February. -/
def isLeapYear (year : Nat) : Bool :=
  year % 4 == 0 && (year % 100 != 0 || year % 400 == 0)

/-- The number of days of a month. -/
def daysInMonth (year month : Nat) : Nat :=
  if month = 2 then if isLeapYear year then 29 else 28
  else if month = 4 ∨ month = 6 ∨ month = 9 ∨ month = 11 then 30
  else 31

/-- A date of the calendar. -/
def date? (text : List Char) : Option (List Char) := do
  let (year, text) ← fixedDigits? 4 text
  let text ← sign? '-' text
  let (month, text) ← fixedDigits? 2 text
  let text ← sign? '-' text
  let (day, text) ← fixedDigits? 2 text
  if 1 ≤ month ∧ month ≤ 12 ∧ 1 ≤ day ∧ day ≤ daysInMonth year month then some text else none

/-- A fraction of a second, or nothing. -/
def fraction? : List Char → Option (List Char)
  | '.' :: rest =>
    if (rest.takeWhile isDigit).isEmpty then none else some (rest.dropWhile isDigit)
  | text => some text

/-- A time of day, to the second or finer. -/
def timeOfDay? (text : List Char) : Option (List Char) := do
  let (hour, text) ← fixedDigits? 2 text
  let text ← sign? ':' text
  let (minute, text) ← fixedDigits? 2 text
  let text ← sign? ':' text
  let (second, text) ← fixedDigits? 2 text
  if hour ≤ 23 ∧ minute ≤ 59 ∧ second ≤ 60 then fraction? text else none

/-- A distance from universal time. -/
def offset? : List Char → Option (List Char)
  | 'Z' :: rest => some rest
  | 'z' :: rest => some rest
  | c :: rest =>
    if c = '+' || c = '-' then do
      let (hour, rest) ← fixedDigits? 2 rest
      let rest ← sign? ':' rest
      let (minute, rest) ← fixedDigits? 2 rest
      if hour ≤ 23 ∧ minute ≤ 59 then some rest else none
    else none
  | [] => none

/-- A time of day with an offset or without, and nothing behind it. -/
def isClock (text : List Char) : Bool :=
  match timeOfDay? text with
  | none => false
  | some [] => true
  | some rest => offset? rest == some []

/-- **A date, a time of day, or a date and a time with the letter `T`
between them.** -/
def isDatetime (word : List Char) : Bool :=
  match date? word with
  | some [] => true
  | some (c :: rest) => (c == 'T' || c == 't') && isClock rest
  | none => timeOfDay? word == some []

/-! ## Scalars -/

/-- The scalar that a run of characters is. -/
def scalarOfWord? (word : List Char) : Option Data :=
  if word = ['t', 'r', 'u', 'e'] then some (.boolean true)
  else if word = ['f', 'a', 'l', 's', 'e'] then some (.boolean false)
  else if isDatetime word then some .datetime
  else match integer? word with
    | some n => some (.integer n)
    | none => (float? word).map Data.float

/-- **A scalar that is not a string.** Behind a date a blank and a time
of day belong to it. -/
def plainScalar? (text : List Char) : Option (Data × List Char) :=
  let word := text.takeWhile isWord
  let rest := text.dropWhile isWord
  match rest with
  | ' ' :: more =>
    if date? word == some [] && isClock (more.takeWhile isWord) then
      some (.datetime, more.dropWhile isWord)
    else (scalarOfWord? word).map fun d => (d, rest)
  | _ => (scalarOfWord? word).map fun d => (d, rest)

end DocSite.Toml
