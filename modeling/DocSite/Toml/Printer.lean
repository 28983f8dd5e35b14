import DocSite.Data.Doc
import DocSite.Toml.Key

/-!
# Writing TOML

A document is written as a table: first a line for each field that holds
a plain value, then a section for each field that holds a record and for
each record of a list of records. A section has a header with the whole
way to it, so sections need no nesting.

A list is a list of records when it has nothing but records in it and is
not empty. Inside any other list everything is written on its line.
-/

namespace DocSite.Toml

/-- The pieces with a comma and a blank between them. -/
def commaSeparated : List (List Char) → List Char
  | [] => []
  | [piece] => piece
  | piece :: pieces => piece ++ ',' :: ' ' :: commaSeparated pieces

mutual

/-- **A value on its line.** -/
def inlineValue : Doc → List Char
  | .text s => encode s.toList
  | .flag b => if b then ['t', 'r', 'u', 'e'] else ['f', 'a', 'l', 's', 'e']
  | .list items => '[' :: commaSeparated (inlineItems items) ++ [']']
  | .record fields =>
    if fields.isEmpty then ['\x7b', '\x7d']
    else ['\x7b', ' '] ++ commaSeparated (inlineFields fields) ++ [' ', '\x7d']

/-- Items on their line. -/
def inlineItems : List Doc → List (List Char)
  | [] => []
  | item :: items => inlineValue item :: inlineItems items

/-- Fields on their line. -/
def inlineFields : List (String × Doc) → List (List Char)
  | [] => []
  | (name, field) :: fields =>
    (writeKey name ++ [' ', '=', ' '] ++ inlineValue field) :: inlineFields fields

end

/-- A record. -/
def isRecord : Doc → Bool
  | .record _ => true
  | _ => false

/-- **A field that has sections of its own**: a record, or a list of
records. -/
def hasSections : Doc → Bool
  | .record _ => true
  | .list items => !items.isEmpty && items.all isRecord
  | _ => false

/-- The lines of the fields that hold plain values. -/
def valueLines : List (String × Doc) → List Char
  | [] => []
  | (name, field) :: fields =>
    (if hasSections field then []
      else writeKey name ++ [' ', '=', ' '] ++ inlineValue field ++ ['\n'])
    ++ valueLines fields

/-- Keys with dots between them. -/
def writePath (way : List String) : List Char :=
  (way.map writeKey).intersperse ['.'] |>.flatten

/-- The header of a section, behind an empty line. -/
def writeHeader (row : Bool) (way : List String) : List Char :=
  if row then ['\n', '[', '['] ++ writePath way ++ [']', ']', '\n']
  else ['\n', '['] ++ writePath way ++ [']', '\n']

/-- A record needs a header of its own unless everything in it does. -/
def needsHeader (fields : List (String × Doc)) : Bool :=
  fields.isEmpty || fields.any fun field => !hasSections field.2

mutual

/-- **The sections of a field** that can be reached by a way. -/
def fieldSections (way : List String) : Doc → List Char
  | .record fields =>
    (if needsHeader fields then writeHeader false way ++ valueLines fields else [])
      ++ sections way fields
  | .list items => if !items.isEmpty && items.all isRecord then rows way items else []
  | _ => []

/-- The sections of all fields. -/
def sections (way : List String) : List (String × Doc) → List Char
  | [] => []
  | (name, field) :: fields => fieldSections (way ++ [name]) field ++ sections way fields

/-- The sections of a list of records. -/
def rows (way : List String) : List Doc → List Char
  | [] => []
  | item :: items => rowSections way item ++ rows way items

/-- The sections of one record of a list. -/
def rowSections (way : List String) : Doc → List Char
  | .record fields => writeHeader true way ++ valueLines fields ++ sections way fields
  | _ => []

end

/-- **The text of a document** with the given fields. No empty line comes
before its first line. -/
def write (fields : List (String × Doc)) : List Char :=
  let plain := valueLines fields
  if plain.isEmpty then (sections [] fields).drop 1 else plain ++ sections [] fields

end DocSite.Toml
