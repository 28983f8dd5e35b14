import DocSite.Text.Blank
import DocSite.Text.Segments

/-!
# Relative paths

Slugs and listed directories are paths below the root of the content:
segments with slashes between them. A segment is not empty, has no
blanks, and is neither `.` nor `..`, so a path never leaves the root.

`fault?` looks for the first thing that is wrong with a text, from the
ends of the text to its inside.
-/

namespace DocSite.RelativePath

/-- **What keeps a text from being a relative path.** -/
inductive Fault where
  /-- It is empty. -/
  | empty
  /-- It begins with a slash. -/
  | leadingSlash
  /-- It ends with a slash. -/
  | trailingSlash
  /-- It has blanks. -/
  | blank
  /-- It has a segment that is empty, `.` or `..`. -/
  | segment
deriving DecidableEq

/-- A fault in words. -/
def Fault.text : Fault → String
  | empty => "must not be empty"
  | leadingSlash => "must be relative (no leading `/`)"
  | trailingSlash => "must not end with `/`"
  | blank => "must not contain whitespace"
  | segment => "contains an empty, `.` or `..` segment"

/-- The segments of a text. -/
def segments (text : String) : List (List Char) :=
  Text.split (· == '/') text.toList

/-- A segment that names nothing. -/
def isIdle (segment : List Char) : Bool :=
  segment.isEmpty || segment == ['.'] || segment == ['.', '.']

/-- **The first fault of a text**, if it has one. -/
def fault? (text : String) : Option Fault :=
  let chars := text.toList
  if chars.isEmpty then some .empty
  else if chars.head? = some '/' then some .leadingSlash
  else if chars.getLast? = some '/' then some .trailingSlash
  else if Text.hasBlank text then some .blank
  else if (segments text).any isIdle then some .segment
  else none

end DocSite.RelativePath
