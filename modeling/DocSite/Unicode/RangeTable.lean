/-!
# Tables of code points

The Unicode properties this library consults are written as words of
hexadecimal digits, one range a word, in ascending order over any number
of lines: `41-5A` is a range, `AA` a single code point, and `64B:T`
carries a tag. A `RangeTable` is such a list read into an array; `find?`
finds the range that holds a code point by halving.
-/

namespace DocSite.Unicode

/-- The value of a hexadecimal digit, in either case. -/
def hexDigit? (c : Char) : Option Nat :=
  if '0' ≤ c ∧ c ≤ '9' then some (c.toNat - '0'.toNat)
  else if 'a' ≤ c ∧ c ≤ 'f' then some (c.toNat - 'a'.toNat + 10)
  else if 'A' ≤ c ∧ c ≤ 'F' then some (c.toNat - 'A'.toNat + 10)
  else none

/-- The number that hexadecimal digits write; other characters are
passed over. -/
def hexValue (digits : List Char) : Nat :=
  digits.foldl (fun n c => match hexDigit? c with
    | some d => 16 * n + d
    | none => n) 0

/-- **A range of code points and what the table says of it.** -/
structure Range (α : Type) where
  /-- The first code point. -/
  first : Nat
  /-- The last code point. -/
  last : Nat
  /-- What holds of every code point between them. -/
  tag : α

/-- **Ranges in ascending order**, none meeting another. -/
structure RangeTable (α : Type) where
  /-- The ranges. -/
  ranges : Array (Range α)

namespace RangeTable

variable {α : Type}

/-- The position of the range that holds `c`, sought among the `size`
ranges from `start` on: the upper half if the middle range begins at or
before `c`, else the lower half. -/
def search (table : RangeTable α) (c : Nat) : Nat → Nat → Nat → Option (Range α)
  | 0, _, _ => none
  | fuel + 1, start, size =>
    if size = 0 then none
    else if size = 1 then
      (table.ranges[start]?).filter fun r => r.first ≤ c && c ≤ r.last
    else
      let half := size / 2
      match table.ranges[start + half]? with
      | some r =>
        if r.first ≤ c then search table c fuel (start + half) (size - half)
        else search table c fuel start half
      | none => none

/-- The range that holds a code point. -/
def find? (table : RangeTable α) (c : Nat) : Option (Range α) :=
  table.search c (table.ranges.size + 1) 0 table.ranges.size

/-- A code point of one of the ranges. -/
def contains (table : RangeTable α) (c : Char) : Bool :=
  (table.find? c.toNat).isSome

/-- What the table says of a character. -/
def tag? (table : RangeTable α) (c : Char) : Option α :=
  (table.find? c.toNat).map Range.tag

/-- Reads one word: ends, and the text behind the colon. -/
def readWord (word : String) : Range String :=
  let (ends, tag) := match word.splitOn ":" with
    | [ends, tag] => (ends, tag)
    | _ => (word, "")
  match ends.splitOn "-" with
  | [first, last] => ⟨hexValue first.toList, hexValue last.toList, tag⟩
  | _ => ⟨hexValue ends.toList, hexValue ends.toList, tag⟩

/-- **The table that words write**, with the tags read by `read`. -/
def ofWords (read : String → α) (words : String) : RangeTable α :=
  ⟨((words.splitOn "\n").flatMap fun line => (line.splitOn " ").filter (!·.isEmpty)).toArray.map
    fun word =>
      let range := readWord word
      ⟨range.first, range.last, read range.tag⟩⟩

/-- A table that says only which code points it holds. -/
def ofPlainWords (words : String) : RangeTable Unit :=
  ofWords (fun _ => ()) words

end RangeTable

end DocSite.Unicode
