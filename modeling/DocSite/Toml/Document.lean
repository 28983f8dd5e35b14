import DocSite.Toml.Value

/-!
# TOML documents

A document is a list of lines: statements (`key = value`), headers
(`[key]` opens a table, `[[key]]` adds a table to an array of tables)
and lines that are blank or hold a comment. `parse?` reads the lines,
groups the statements under the headers, and has the tables assembled.

The one failure a document has is not to be one: where and how its text
goes wrong is not recorded.
-/

namespace DocSite.Toml

/-- **A line of a document.** -/
inductive Line where
  /-- Nothing, or a comment. -/
  | blank
  /-- `key = value`. -/
  | pair (keys : List String) (value : Data)
  /-- `[key]`, or `[[key]]` if `row` is set. -/
  | header (row : Bool) (keys : List String)

/-- A header, up to and with its closing brackets. -/
def header? : Reader Line
  | '[' :: '[' :: rest => do
    let (keys, rest) ← key? rest
    match rest with
    | ']' :: ']' :: rest => some (.header true keys, rest)
    | _ => none
  | '[' :: rest => do
    let (keys, rest) ← key? rest
    match rest with
    | ']' :: rest => some (.header false keys, rest)
    | _ => none
  | _ => none

/-- **One line**, with its end. -/
def line? (text : List Char) : Option (Line × List Char) :=
  match skipBlanks text with
  | [] => some (.blank, [])
  | c :: rest =>
    if c = '\n' || c = '\r' || c = '#' then
      (endOfLine? (c :: rest)).map fun rest => (.blank, rest)
    else if c = '[' then do
      let (header, rest) ← header? (c :: rest)
      (endOfLine? rest).map fun rest => (header, rest)
    else do
      let ((keys, value), rest) ← pair? (value? maxParts) (c :: rest)
      (endOfLine? rest).map fun rest => (.pair keys value, rest)

/-- All lines; each is at least one character of the text. -/
def lines? : (fuel : Nat) → List Char → Option (List Line)
  | _, [] => some []
  | 0, _ :: _ => none
  | fuel + 1, text => do
    let (line, rest) ← line? text
    (lines? fuel rest).map (line :: ·)

/-- **Statements above the first header, and the sections.** -/
def group : List Line → List (List String × Data) × List Section
  | [] => ([], [])
  | .blank :: lines => group lines
  | .pair keys value :: lines =>
    let (pairs, sections) := group lines
    ((keys, value) :: pairs, sections)
  | .header row keys :: lines =>
    let (pairs, sections) := group lines
    ([], ⟨row, keys.dropLast, keys.getLast?.getD "", pairs⟩ :: sections)

/-- A text without the byte order mark it may begin with. -/
def dropMark : List Char → List Char
  | '\uFEFF' :: rest => rest
  | text => text

/-- **The table that a text describes**, or `none` if the text is not a
TOML document. -/
def parse? (text : String) : Option (List (String × Data)) := do
  let chars := dropMark text.toList
  let (pairs, sections) := group (← lines? (chars.length + 1) chars)
  (assemble? pairs sections).map Node.entriesData

end DocSite.Toml
