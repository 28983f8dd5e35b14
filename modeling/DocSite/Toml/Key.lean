import DocSite.Toml.Quoted

/-!
# Keys in TOML

A key is a bare word of ASCII letters, digits, underscores and hyphens,
or a string on one line. Keys joined by dots address a value inside
tables; blanks around the dots do not count. At most `maxParts` keys may
be joined.
-/

namespace DocSite.Toml

/-- How deep values may nest and how many keys may be joined. -/
def maxParts : Nat := 79

/-- A character of a bare key. -/
def isBare (c : Char) : Bool :=
  ('a' ≤ c && c ≤ 'z') || ('A' ≤ c && c ≤ 'Z') || ('0' ≤ c && c ≤ '9') || c == '_' || c == '-'

/-- One key. -/
def simpleKey? (text : List Char) : Option (String × List Char) :=
  match text with
  | c :: _ =>
    if isBare c then some (String.ofList (text.takeWhile isBare), text.dropWhile isBare)
    else (lineString? text).map fun (s, rest) => (String.ofList s, rest)
  | [] => none

/-- **Keys joined by dots**, at most so many, blanks around each passed
over. -/
def keys? : (allowed : Nat) → Reader (List String)
  | 0, _ => none
  | allowed + 1, text => do
    let (key, rest) ← simpleKey? (skipBlanks text)
    match skipBlanks rest with
    | '.' :: rest => (keys? allowed rest).map fun (keys, rest) => (key :: keys, rest)
    | rest => some ([key], rest)

/-- A key of a statement or a header. -/
def key? (text : List Char) : Option (List String × List Char) :=
  keys? maxParts text

/-- How a key is written: bare if it can be, else as a basic string. -/
def writeKey (key : String) : List Char :=
  let chars := key.toList
  if !chars.isEmpty && chars.all isBare then chars else encodeAs .basic chars

end DocSite.Toml
