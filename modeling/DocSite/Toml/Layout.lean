/-!
# Blanks, line ends and comments in TOML

What separates the tokens of a TOML text. On one line only blanks and
tabs do (`skipBlanks`); between the items of an array also line ends and
comments (`skipLayout`). A line ends with a line feed, alone or after a
carriage return (`newline?`), and whatever stands on it behind its
statement must be blank or a comment (`endOfLine?`).

A comment may hold every character but controls; a tab is allowed.
-/

namespace DocSite.Toml

/-- A blank within a line. -/
def isBlank (c : Char) : Bool :=
  c == ' ' || c == '\t'

/-- A character that may stand in a comment or in a literal string. -/
def isText (c : Char) : Bool :=
  c == '\t' || (0x20 ≤ c.toNat && c.toNat != 0x7F)

/-- Passes over blanks. -/
def skipBlanks (text : List Char) : List Char :=
  text.dropWhile isBlank

/-- Passes over a line end. -/
def newline? : List Char → Option (List Char)
  | '\n' :: rest => some rest
  | '\r' :: '\n' :: rest => some rest
  | _ => none

/-- Passes over a comment, if one begins here, up to its line end. -/
def skipComment : List Char → List Char
  | '#' :: rest => rest.dropWhile isText
  | text => text

/-- **The end of a statement**: blanks, a comment or none, and a line end
or the end of the text. -/
def endOfLine? (text : List Char) : Option (List Char) :=
  match skipComment (skipBlanks text) with
  | [] => some []
  | rest => newline? rest

/-- **Passes over blanks, line ends and comments.** `inComment` says that
a comment has begun on this line. Fails at a control character in a
comment and at a carriage return that ends no line. -/
def skipLayout : Bool → List Char → Option (List Char)
  | _, [] => some []
  | _, '\n' :: rest => skipLayout false rest
  | _, '\r' :: '\n' :: rest => skipLayout false rest
  | true, c :: rest => if isText c then skipLayout true rest else none
  | false, '#' :: rest => skipLayout true rest
  | false, c :: rest => if isBlank c then skipLayout false rest else some (c :: rest)

end DocSite.Toml
