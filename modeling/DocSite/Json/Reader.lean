import DocSite.Json.Number
import DocSite.Json.Quoted

/-!
# Reading JSON

A text is read into a tree of data whatever it holds: where it stops
being JSON, the tree says so and ends. Nothing is said of how deep the
values nest – a reader that skips them does not mind, and one that takes
them minds for itself.
-/

namespace DocSite.Json

/-- Blanks between tokens. -/
def isBlank (c : Char) : Bool :=
  c == ' ' || c == '\n' || c == '\t' || c == '\r'

/-- Passes over blanks. -/
def skipBlanks (text : List Char) : List Char :=
  text.dropWhile isBlank

/-- The literal word at the front of the text, or a fault. -/
def word (expected : List Char) (data : Data) (text : List Char) : Data × List Char :=
  if expected.isPrefixOf text then (data, text.drop expected.length) else (.fault false, [])

/-- Whether a value ends the text it stands in. -/
def isBreak : Data → Bool
  | .fault passable => !passable
  | .torn _ passable => !passable
  | _ => false

/-- Adds an item in front of an array that is read to the end or torn. -/
def consItem (item : Data) : Data × List Char → Data × List Char
  | (.array items, rest) => (.array (item :: items), rest)
  | (.torn (.array items) passable, rest) => (.torn (.array (item :: items)) passable, rest)
  | other => other

/-- Adds an entry in front of a table that is read to the end or torn. -/
def consEntry (key : String) (value : Data) : Data × List Char → Data × List Char
  | (.table entries, rest) => (.table ((key, value) :: entries), rest)
  | (.torn (.table entries) passable, rest) =>
    (.torn (.table ((key, value) :: entries)) passable, rest)
  | other => other

/-- A table whose next key cannot be read, while skipping may get to its
end. -/
def dropEntries : Data × List Char → Data × List Char
  | (.table _, rest) => (.torn (.table []) true, rest)
  | (.torn _ passable, rest) => (.torn (.table []) passable, rest)
  | other => other

mutual

/-- **The value at the front of a text**, and what follows it. Every
step reads a character at least, so their number bounds the
recursion. -/
def value : (fuel : Nat) → List Char → Data × List Char
  | 0, _ => (.fault false, [])
  | fuel + 1, text =>
    match skipBlanks text with
    | [] => (.fault false, [])
    | c :: rest =>
      if c = 'n' then word ['n', 'u', 'l', 'l'] .null (c :: rest)
      else if c = 't' then word ['t', 'r', 'u', 'e'] (.boolean true) (c :: rest)
      else if c = 'f' then word ['f', 'a', 'l', 's', 'e'] (.boolean false) (c :: rest)
      else if c = '"' then
        match string rest with
        | .text s rest => (.string (String.ofList s), rest)
        | .unpaired rest => (.fault true, rest)
        | .broken => (.fault false, [])
      else if c = '[' then
        match skipBlanks rest with
        | ']' :: rest => (.array [], rest)
        | rest => items fuel rest
      else if c = '\x7b' then
        match skipBlanks rest with
        | '\x7d' :: rest => (.table [], rest)
        | rest => entries fuel rest
      else
        match literal? (c :: rest) with
        | some (l, rest) => (l.data, rest)
        | none => (.fault false, [])

/-- The items of an array, at least one, and its end. -/
def items : (fuel : Nat) → List Char → Data × List Char
  | 0, _ => (.torn (.array []) false, [])
  | fuel + 1, text =>
    let (item, rest) := value fuel text
    if isBreak item then
      match item with
      | .fault _ => (.torn (.array []) false, [])
      | item => (.torn (.array [item]) false, [])
    else match skipBlanks rest with
      | ']' :: rest => (.array [item], rest)
      | ',' :: rest => consItem item (items fuel rest)
      | _ => (.torn (.array [item]) false, [])

/-- The entries of a table, at least one, and its end. -/
def entries : (fuel : Nat) → List Char → Data × List Char
  | 0, _ => (.torn (.table []) false, [])
  | fuel + 1, text =>
    match skipBlanks text with
    | '"' :: rest =>
      match string rest with
      | .broken => (.torn (.table []) false, [])
      | .unpaired rest => dropEntries (entry fuel "" rest)
      | .text key rest => entry fuel (String.ofList key) rest
    | _ => (.torn (.table []) false, [])

/-- The value under a key, the entries after it, and the end of the
table. -/
def entry : (fuel : Nat) → (key : String) → List Char → Data × List Char
  | 0, _, _ => (.torn (.table []) false, [])
  | fuel + 1, key, text =>
    match skipBlanks text with
    | ':' :: rest =>
      let (value, rest) := value fuel rest
      if isBreak value then (.torn (.table [(key, value)]) false, [])
      else match skipBlanks rest with
        | '\x7d' :: rest => (.table [(key, value)], rest)
        | ',' :: rest => consEntry key value (entries fuel rest)
        | _ => (.torn (.table [(key, value)]) false, [])
    | _ => (.torn (.table [(key, .fault false)]) false, [])

end

/-- **The tree of data that a text describes**, and whether nothing but
blanks follows it. -/
def parse (text : String) : Data × Bool :=
  let chars := text.toList
  let (data, rest) := value (2 * chars.length + 2) chars
  (data, rest.all isBlank)

end DocSite.Json
