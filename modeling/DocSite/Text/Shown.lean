import DocSite.Unicode.Printable

/-!
# Quoting a text in a complaint

A complaint about a value shows it between quotes. Each character is
shown as itself as long as a reader can see it there; a quote, a
backslash and the common controls are written with a backslash, and
everything invisible as `\u` with its code point in braces.
-/

namespace DocSite.Text

open DocSite.Unicode

/-- The lower-case hexadecimal digits of a number. -/
def hexDigits (n : Nat) : List Char :=
  Nat.toDigits 16 n

/-- How one character is shown. -/
def showChar (c : Char) : List Char :=
  if c = '\x00' then ['\\', '0']
  else if c = '\t' then ['\\', 't']
  else if c = '\r' then ['\\', 'r']
  else if c = '\n' then ['\\', 'n']
  else if c = '"' then ['\\', '"']
  else if c = '\\' then ['\\', '\\']
  else if extendsGrapheme c || !isPrintable c then
    ['\\', 'u', '\x7b'] ++ hexDigits c.toNat ++ ['\x7d']
  else [c]

/-- **A text between quotes**, as a complaint shows it. -/
def quoted (text : String) : String :=
  String.ofList ('"' :: text.toList.flatMap showChar ++ ['"'])

end DocSite.Text
