import DocSite.Text.Segments
import DocSite.Unicode.RangeTable

/-!
# IPv6 addresses

Eight pieces of one to four hexadecimal digits with colons between them.
Two colons together stand for as many zero pieces as are missing, at
least one, and may stand once; the last two pieces may be written as
four decimal bytes with dots between them, without leading zeros.
-/

namespace DocSite.Url

open DocSite.Unicode (hexDigit?)

/-- A piece of hexadecimal digits. -/
def piece? (digits : List Char) : Option Nat :=
  if digits.isEmpty || 4 < digits.length then none
  else digits.foldlM (fun n c => (hexDigit? c).map (16 * n + ·)) 0

/-- A decimal byte without leading zeros. -/
def byte? (digits : List Char) : Option Nat :=
  if digits.isEmpty || 3 < digits.length || !digits.all (fun c => '0' ≤ c && c ≤ '9') then none
  else if digits.head? = some '0' ∧ digits.length ≠ 1 then none
  else
    let n := digits.foldl (fun n c => 10 * n + (c.toNat - '0'.toNat)) 0
    if n ≤ 255 then some n else none

/-- Two pieces written as four bytes. -/
def dottedPieces? (text : List Char) : Option (List Nat) :=
  match (Text.split (· == '.') text).mapM byte? with
  | some [a, b, c, d] => some [256 * a + b, 256 * c + d]
  | _ => none

/-- The pieces of a part between colons; `final` says that the address
ends with it, so that its last piece may be dotted. -/
def pieces? (final : Bool) : List (List Char) → Option (List Nat)
  | [] => some []
  | [last] =>
    if final && last.contains '.' then dottedPieces? last else (piece? last).map ([·])
  | text :: rest => do
    let n ← piece? text
    (pieces? final rest).map (n :: ·)

/-- Cuts a text at the first two colons that stand together. -/
def cutAtGap : List Char → Option (List Char × List Char)
  | [] => none
  | [_] => none
  | a :: b :: rest =>
    if a = ':' ∧ b = ':' then some ([], rest)
    else (cutAtGap (b :: rest)).map fun (before, after) => (a :: before, after)

/-- The pieces of a part of an address, which may be empty. -/
def part? (final : Bool) (text : List Char) : Option (List Nat) :=
  if text.isEmpty then some [] else pieces? final (Text.split (· == ':') text)

/-- **The eight pieces of an address.** -/
def ipv6? (text : List Char) : Option (List Nat) :=
  match cutAtGap text with
  | none => do
    let pieces ← pieces? true (Text.split (· == ':') text)
    if pieces.length = 8 then some pieces else none
  | some (before, after) => do
    let leading ← part? false before
    let trailing ← part? true after
    if leading.length + trailing.length ≤ 7 then
      some (leading ++ List.replicate (8 - leading.length - trailing.length) 0 ++ trailing)
    else none

end DocSite.Url
