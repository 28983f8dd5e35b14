import DocSite.Text.Segments
import DocSite.Unicode.RangeTable

/-!
# IPv4 addresses

A host is an IPv4 address if its last label is a number: decimal, octal
with a leading zero or hexadecimal with `0x`. Such a host has at most
four numbers; the last of them fills all bytes that the others leave,
and each of the others fills one. A dot at the end does not count, and
an empty label is no number.
-/

namespace DocSite.Url

open DocSite.Unicode (hexDigit?)

/-- A decimal digit. -/
def isDigit (c : Char) : Bool :=
  '0' ≤ c && c ≤ '9'

/-- The value of digits in a base; no digits at all, as behind `0x`, are
zero. -/
def baseValue? (base : Nat) (digits : List Char) : Option Nat :=
  digits.foldlM (fun n c => do
    let d ← hexDigit? c
    if d < base then some (base * n + d) else none) 0

/-- **The number that a label writes**, if it writes one. -/
def labelNumber? : List Char → Option Nat
  | [] => none
  | '0' :: 'x' :: digits => baseValue? 16 digits
  | '0' :: 'X' :: digits => baseValue? 16 digits
  | ['0'] => some 0
  | '0' :: digits => baseValue? 8 digits
  | digits => baseValue? 10 digits

/-- The labels of a host without the empty one behind a final dot. -/
def addressLabels (host : List Char) : List (List Char) :=
  let labels := Text.split (· == '.') host
  if labels.getLast? = some [] then labels.dropLast else labels

/-- **Whether a host ends in a number** and so has to be an address: a
number too large for one counts, and so does a run of digits that octal
has not. -/
def endsInNumber (host : List Char) : Bool :=
  match (addressLabels host).getLast? with
  | none => false
  | some last => (!last.isEmpty && last.all isDigit) || (labelNumber? last).isSome

/-- Puts the numbers of an address together: each of the `count` numbers
but the last is a byte. -/
def combine? (leading : List Nat) (last : Nat) : Option Nat :=
  if leading.length ≤ 3 ∧ leading.all (· ≤ 255) ∧ last < Nat.pow 256 (4 - leading.length) then
    some (leading.foldr (fun n (place, sum) => (256 * place, sum + n * place))
      (Nat.pow 256 (4 - leading.length), last)).2
  else none

/-- **The address that a host writes**, as a number below `2 ^ 32`. -/
def ipv4? (host : List Char) : Option Nat := do
  let numbers ← (addressLabels host).mapM labelNumber?
  combine? numbers.dropLast (← numbers.getLast?)

end DocSite.Url
