import DocSite.Unicode.Canonical

/-!
# The composed normal form

Two texts that differ only in whether `é` is one character or a letter
with an accent are canonically equivalent. `composed` picks from every
class of equivalent texts the one with as many characters composed as
possible: it takes every character apart (`decompose`), puts the marks
on one base in the order of their classes (`ordered`), and composes
each starter with the marks that can reach it (`recompose`).

Hangul syllables are composed of two or three letters by arithmetic: a
syllable is the base plus an index in a three-dimensional array.
-/

namespace DocSite.Unicode

/-- The first Hangul syllable. -/
def syllableBase : Nat := 0xAC00

/-- How many Hangul syllables there are. -/
def syllableCount : Nat := 11172

/-- The first leading consonant, vowel, and the place before the first
trailing consonant. -/
def jamoBases : Nat × Nat × Nat := (0x1100, 0x1161, 0x11A7)

/-- The letters of a Hangul syllable, given its index. -/
def syllableLetters (index : Nat) : List Char :=
  let (leading, vowel, trailing) := jamoBases
  let letters := [Char.ofNat (leading + index / 588), Char.ofNat (vowel + index % 588 / 28)]
  if index % 28 = 0 then letters else letters ++ [Char.ofNat (trailing + index % 28)]

/-- **The full canonical decomposition of a character.** The first
character of a pair may be a pair again; the data nests no deeper than
four pairs, which bounds the recursion. -/
def decomposeChar : Nat → Char → List Char
  | 0, c => [c]
  | depth + 1, c =>
    if c.toNat < 0xC0 then [c]
    else if syllableBase ≤ c.toNat ∧ c.toNat < syllableBase + syllableCount then
      syllableLetters (c.toNat - syllableBase)
    else match decompositions.tag? c with
      | none => [c]
      | some (.parts codes) => codes.map Char.ofNat
      | some (.pair base mark) =>
        decomposeChar depth (Char.ofNat base) ++ decomposeChar depth (Char.ofNat mark)

/-- Every character taken apart. -/
def decompose (text : List Char) : List Char :=
  text.flatMap (decomposeChar 4)

/-- Places a mark of class `k` in a reversed text: behind everything of
a class no greater than its own. -/
def placeMark (k : Nat) (c : Char) : List Char → List Char
  | [] => [c]
  | d :: before =>
    if k < combiningClass d then d :: placeMark k c before else c :: d :: before

/-- **Canonical order**: marks that follow one base stand in ascending
order of their classes, those of one class in the order they came. -/
def ordered (text : List Char) : List Char :=
  (text.foldl (fun before c =>
    match combiningClass c with
    | 0 => c :: before
    | k => placeMark k c before) []).reverse

/-- The composition of two Hangul letters, or of a syllable and a
trailing consonant. -/
def composeSyllable (first second : Nat) : Option Nat :=
  let (leading, vowel, trailing) := jamoBases
  if leading ≤ first ∧ first < leading + 19 ∧ vowel ≤ second ∧ second < vowel + 21 then
    some (syllableBase + (first - leading) * 588 + (second - vowel) * 28)
  else if syllableBase ≤ first ∧ first < syllableBase + syllableCount
      ∧ (first - syllableBase) % 28 = 0 ∧ trailing < second ∧ second < trailing + 28 then
    some (first + (second - trailing))
  else none

/-- The character that two characters compose to. -/
def composePair (first second : Char) : Option Char :=
  match composeSyllable first.toNat second.toNat with
  | some code => some (Char.ofNat code)
  | none =>
    (decompositions.ranges.findSome? fun range =>
      match range.tag with
      | .pair base mark =>
        if base = first.toNat ∧ mark = second.toNat then some range.first else none
      | .parts _ => none).map Char.ofNat

/-- **Composes a text in canonical order.** `starter` is the last
character of class zero, `marks` what stands behind it, reversed. A
character reaches the starter if nothing stands between them or only
marks of smaller classes do. -/
def recompose : Option Char → List Char → List Char → List Char
  | starter, marks, [] => starter.toList ++ marks.reverse
  | none, marks, c :: rest =>
    if combiningClass c = 0 then marks.reverse ++ recompose (some c) [] rest
    else recompose none (c :: marks) rest
  | some s, marks, c :: rest =>
    let k := combiningClass c
    let reaches := match marks with
      | [] => true
      | last :: _ => combiningClass last < k
    match if reaches then composePair s c else none with
    | some composite => recompose (some composite) marks rest
    | none =>
      if k = 0 then s :: (marks.reverse ++ recompose (some c) [] rest)
      else recompose (some s) (c :: marks) rest

/-- **The composed normal form.** A text of ASCII characters is its own
composed form. -/
def composed (text : List Char) : List Char :=
  if text.all (·.toNat < 0x80) then text else recompose none [] (ordered (decompose text))

end DocSite.Unicode
