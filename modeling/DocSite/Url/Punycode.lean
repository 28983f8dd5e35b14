import DocSite.Unicode.RangeTable

/-!
# Punycode

A label of a host name that is not ASCII is written in ASCII: first the
ASCII characters it has, then a hyphen, then the others in ascending
order of their code points, each as the distance from the one before –
how many times one would pass over the text to get from one insertion to
the next. Distances are numbers of variable length in base 36, whose
digits carry their own end, and the thresholds that mark the end adapt
to the distances seen so far.

Reading goes through the text once, one digit at a time. Writing adds
one character at a time; the thresholds lie between 1 and 26, so every
digit written leaves a smaller number.
-/

namespace DocSite.Url.Punycode

/-- The value of a digit: letters first, of either case, then decimal
digits. -/
def digitValue? (c : Char) : Option Nat :=
  if 'a' ≤ c ∧ c ≤ 'z' then some (c.toNat - 'a'.toNat)
  else if 'A' ≤ c ∧ c ≤ 'Z' then some (c.toNat - 'A'.toNat)
  else if '0' ≤ c ∧ c ≤ '9' then some (c.toNat - '0'.toNat + 26)
  else none

/-- The digit with a value below 36. -/
def digit (value : Nat) : Char :=
  if value < 26 then Char.ofNat ('a'.toNat + value) else Char.ofNat ('0'.toNat + (value - 26))

/-- **The threshold of the digit at a place**: a digit below it is the
last of its number. -/
def threshold (place bias : Nat) : Nat :=
  if place ≤ bias + 1 then 1 else if bias + 26 ≤ place then 26 else place - bias

theorem one_le_threshold (place bias : Nat) : 1 ≤ threshold place bias := by
  unfold threshold
  split
  · omega
  · split <;> omega

theorem threshold_le (place bias : Nat) : threshold place bias ≤ 26 := by
  unfold threshold
  split
  · omega
  · split <;> omega

/-- Brings a distance into the range of the bias; gives it with the
places passed. -/
def shrink (distance places : Nat) : Nat × Nat :=
  if 455 < distance then shrink (distance / 35) (places + 36) else (distance, places)
termination_by distance
decreasing_by exact Nat.div_lt_self (by omega) (by omega)

/-- **The bias after a distance**, the text having `length` characters
now. -/
def adapt (distance length : Nat) (first : Bool) : Nat :=
  let scaled := if first then distance / 700 else distance / 2
  let (rest, places) := shrink (scaled + scaled / length) 0
  places + 36 * rest / (rest + 38)

/-! ## Reading -/

/-- **How far reading has come.** -/
structure Progress where
  /-- The text so far. -/
  text : List Char
  /-- The code point to insert next, before the distance is added. -/
  code : Nat := 0x80
  /-- The place in the text where the last insertion ended. -/
  position : Nat := 0
  /-- The adapted bias. -/
  bias : Nat := 72
  /-- The distance read so far. -/
  distance : Nat := 0
  /-- What the next digit counts. -/
  weight : Nat := 1
  /-- The place of the next digit. -/
  place : Nat := 36

/-- Inserts the character that a complete distance leads to. The place
where an insertion ended is not the beginning of the text, so the first
insertion is the one that starts there. -/
def Progress.insert? (p : Progress) (distance : Nat) : Option Progress :=
  let length := p.text.length + 1
  let passed := p.position + distance
  let code := p.code + passed / length
  let position := passed % length
  if h : code.isValidChar then
    some {
      text := p.text.take position ++ Char.ofNatAux code h :: p.text.drop position
      code
      position := position + 1
      bias := adapt distance length (p.position = 0) }
  else none

/-- Reads digits to the end, which must be the end of a number. -/
def decodeDigits? : Progress → List Char → Option (List Char)
  | p, [] => if p.place = 36 then some p.text else none
  | p, c :: rest =>
    match digitValue? c with
    | none => none
    | some d =>
      let distance := p.distance + d * p.weight
      let t := threshold p.place p.bias
      if d < t then
        match p.insert? distance with
        | none => none
        | some p => decodeDigits? p rest
      else
        decodeDigits?
          { p with distance, weight := p.weight * (36 - t), place := p.place + 36 } rest

/-- The characters before the last hyphen, if there is one, and what is
behind it. -/
def cutAtLastHyphen (label : List Char) : List Char × List Char :=
  if label.contains '-' then
    let behind := (label.reverse.takeWhile (· != '-')).reverse
    (label.take (label.length - behind.length - 1), behind)
  else ([], label)

/-- **The text that a label writes.** -/
def decode? (label : List Char) : Option (List Char) :=
  let (basic, digits) := cutAtLastHyphen label
  if basic.all (·.toNat < 0x80) then decodeDigits? { text := basic } digits else none

/-! ## Writing -/

/-- A number as digits that carry their own end. -/
def encodeNumber (bias : Nat) (number place : Nat) : List Char :=
  let t := threshold place bias
  if number < t then [digit number]
  else
    digit (t + (number - t) % (36 - t))
      :: encodeNumber bias ((number - t) / (36 - t)) (place + 36)
termination_by number
decreasing_by
  have := one_le_threshold place bias
  have := threshold_le place bias
  exact Nat.lt_of_le_of_lt (Nat.div_le_self _ _) (by omega)

/-- **How far writing has come.** -/
structure Written where
  /-- The distance passed since the last character written. -/
  distance : Nat := 0
  /-- The adapted bias. -/
  bias : Nat := 72
  /-- How many characters have been written. -/
  count : Nat
  /-- Whether no character beyond ASCII has been written. -/
  first : Bool := true
  /-- The digits written, last group first. -/
  groups : List (List Char) := []

/-- Passes over one character of the text on the way to the characters
with the code point `code`. -/
def Written.pass (code : Nat) (w : Written) (c : Char) : Written :=
  if c.toNat < code then { w with distance := w.distance + 1 }
  else if c.toNat = code then
    { distance := 0
      bias := adapt w.distance (w.count + 1) w.first
      count := w.count + 1
      first := false
      groups := encodeNumber w.bias w.distance 36 :: w.groups }
  else w

/-- Writes the characters with the given code points, in ascending order,
`last` being the first code point not passed yet. -/
def encodeCodes (text : List Char) : (last : Nat) → List Nat → Written → Written
  | _, [], w => w
  | last, code :: codes, w =>
    let w := { w with distance := w.distance + (code - last) * (w.count + 1) }
    let w := text.foldl (Written.pass code) w
    encodeCodes text (code + 1) codes { w with distance := w.distance + 1 }

/-- The code points beyond ASCII, ascending, each once. -/
def highCodes (text : List Char) : List Nat :=
  ((text.map Char.toNat).filter (0x80 ≤ ·)).mergeSort (· ≤ ·) |>.eraseReps

/-- **The label that writes a text.** -/
def encode (text : List Char) : List Char :=
  let basic := text.filter (·.toNat < 0x80)
  let start := if basic.isEmpty then [] else basic ++ ['-']
  start ++ (encodeCodes text 0x80 (highCodes text) { count := basic.length }).groups.reverse.flatten

end DocSite.Url.Punycode
