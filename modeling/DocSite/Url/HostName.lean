import DocSite.Text.Segments
import DocSite.Unicode.Composed
import DocSite.Unicode.Direction
import DocSite.Unicode.Joining
import DocSite.Unicode.Mark
import DocSite.Url.HostMapping
import DocSite.Url.Punycode

/-!
# International host names

The name of a host is a list of labels with dots between them. Every
name has one ASCII form: characters are replaced as the character table
says, the text is composed, and each label that is not ASCII by then is
written in Punycode behind `xn--`.

A label has to be one that this process leaves alone. It begins with no
mark, it holds a joiner only where the joiner changes what a reader
sees, and a name with a letter written from right to left keeps to the
rule on directions. A label that comes with `xn--` is held to the same,
so that no two labels of the same text differ.
-/

namespace DocSite.Url

open DocSite.Unicode

/-- What a label in Punycode begins with. -/
def encodedMark : List Char := ['x', 'n', '-', '-']

/-- An ASCII character. -/
def isAscii (c : Char) : Bool :=
  c.toNat < 0x80

/-- The longest label that is decoded, and the longest that is encoded. -/
def labelLimits : Nat × Nat := (2000, 1000)

/-! ## Joiners -/

/-- The combining class of a virama. -/
def viramaClass : Nat := 9

/-- The first joining type that is not transparent. -/
def nextJoining : List Char → Joining
  | [] => .none
  | c :: rest => if joining c = .transparent then nextJoining rest else joining c

/-- A joiner may follow a virama; the one that keeps letters apart may
also stand between two letters that would join. `before` is reversed. -/
def joinerAllowed (before : List Char) (c : Char) (after : List Char) : Bool :=
  (match before with
    | last :: _ => combiningClass last == viramaClass
    | [] => false)
  || (c == '\u200C'
    && (nextJoining before == .left || nextJoining before == .dual)
    && (nextJoining after == .right || nextJoining after == .dual))

/-- **Every joiner of a label is allowed where it stands.** -/
def joinersAllowed : (before : List Char) → List Char → Bool
  | _, [] => true
  | before, c :: rest =>
    (if c == '\u200C' || c == '\u200D' then joinerAllowed before c rest else true)
      && joinersAllowed (c :: before) rest

/-! ## Directions -/

/-- A character that makes the rule on directions apply. -/
def isRightToLeft (c : Char) : Bool :=
  match direction c with
  | .rightToLeft | .arabicLetter | .arabicNumber => true
  | _ => false

/-- What a label may end with, but for the marks behind it, and what it
may hold, if it is written from right to left. -/
def rightToLeftLabel (classes : List Direction) : Bool :=
  let ending := (classes.reverse.dropWhile (· == .nonspacingMark)).head?
  classes.all (fun d => d != .leftToRight && d != .separator)
    && (ending == some .rightToLeft || ending == some .arabicLetter
      || ending == some .europeanNumber || ending == some .arabicNumber)
    && !(classes.contains .europeanNumber && classes.contains .arabicNumber)

/-- The same, if it is written from left to right. -/
def leftToRightLabel (classes : List Direction) : Bool :=
  let ending := (classes.reverse.dropWhile (· == .nonspacingMark)).head?
  classes.all (fun d => d == .leftToRight || d == .europeanNumber || d == .neutral
      || d == .nonspacingMark)
    && (ending == some .leftToRight || ending == some .europeanNumber)

/-- **The rule on directions**, for one label: it begins with a letter,
and the letter decides. -/
def keepsDirection (label : List Char) : Bool :=
  let classes := label.map direction
  match classes.head? with
  | none => true
  | some .rightToLeft => rightToLeftLabel classes
  | some .arabicLetter => rightToLeftLabel classes
  | some .leftToRight => leftToRightLabel classes
  | some _ => false

/-! ## Labels -/

/-- **A label that the process leaves alone.** -/
def wellFormedLabel (label : List Char) : Bool :=
  label.all (fun c => hostMapping c == some [c])
    && composed label == label
    && !(label.head?.any isMark)
    && joinersAllowed [] label

/-- The text of a label, decoded if it is in Punycode. -/
def labelText? (label : List Char) : Option (List Char) :=
  match Text.stripPrefix? encodedMark label with
  | some digits => do
    if labelLimits.1 < digits.length then none
    else
      let text ← Punycode.decode? digits
      if text.any (!isAscii ·) && wellFormedLabel text then some text else none
  | none =>
    if label.all isAscii then some label
    else if labelLimits.2 < label.length || !wellFormedLabel label then none
    else some label

/-- The ASCII form of a label. -/
def labelAscii (text : List Char) : List Char :=
  if text.all isAscii then text else encodedMark ++ Punycode.encode text

/-! ## Names -/

/-- A lower-case ASCII letter for an upper-case one. -/
def lowered (text : List Char) : List Char :=
  text.map Char.toLower

/-- **The ASCII form of a name**, if it has one. A name of ASCII
characters without a label in Punycode needs no table. -/
def hostName? (name : List Char) : Option (List Char) :=
  let lower := lowered name
  if lower.all isAscii
      && (Text.split (· == '.') lower).all
        (fun label => (Text.stripPrefix? encodedMark label).isNone) then
    some lower
  else do
    let mapped ← name.mapM hostMapping
    let labels ← (Text.split (· == '.') (composed mapped.flatten)).mapM labelText?
    if labels.any (·.any isRightToLeft) && !labels.all keepsDirection then none
    else some (Text.join '.' (labels.map labelAscii))

end DocSite.Url
