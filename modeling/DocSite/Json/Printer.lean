import DocSite.Data.Doc
import DocSite.Json.Quoted

/-!
# Writing JSON

A document is written with one item or field a line, indented by two
blanks for each level; an empty list or record stays on its line. The
only line ends are those between items, for a string writes its own with
an escape.
-/

namespace DocSite.Json

/-- A line end and the indentation of a level. -/
def newline (level : Nat) : List Char :=
  '\n' :: List.replicate (2 * level) ' '

mutual

/-- A document whose first character stands on a line of `level`. -/
def write (level : Nat) : Doc → List Char
  | .text s => encode s.toList
  | .flag b => if b then ['t', 'r', 'u', 'e'] else ['f', 'a', 'l', 's', 'e']
  | .list items =>
    if items.isEmpty then ['[', ']']
    else '[' :: writeItems (level + 1) true items ++ newline level ++ [']']
  | .record fields =>
    if fields.isEmpty then ['\x7b', '\x7d']
    else '\x7b' :: writeFields (level + 1) true fields ++ newline level ++ ['\x7d']

/-- Items, each on a line of its own; `first` says that no comma goes
before the next one. -/
def writeItems (level : Nat) : (first : Bool) → List Doc → List Char
  | _, [] => []
  | first, item :: items =>
    (if first then [] else [',']) ++ newline level ++ write level item
      ++ writeItems level false items

/-- Fields, each on a line of its own. -/
def writeFields (level : Nat) : (first : Bool) → List (String × Doc) → List Char
  | _, [] => []
  | first, (name, field) :: fields =>
    (if first then [] else [',']) ++ newline level ++ encode name.toList ++ [':', ' ']
      ++ write level field ++ writeFields level false fields

end

/-- **The written form of a document.** -/
def pretty (doc : Doc) : List Char :=
  write 0 doc

end DocSite.Json
