import DocSite.Toml.Layout
import DocSite.Unicode.RangeTable

/-!
# Strings in TOML

TOML has four ways to write a string: between single quotes as it is
(*literal*), between double quotes with escapes (*basic*), and each of
the two between tripled quotes over several lines. A string is read by
an automaton that looks at one character at a time, so every reader here
is a recursion on the text itself.

`encode` writes a string in the plainest way that holds it. A basic
string without escapes is preferred, then a literal one, then the two
multi-line forms; a string that needs escapes is written as a basic
string, over several lines if it has line feeds. Main fact of the
pair, for the laws of the whole format: `string? (encode s ++ rest)`
gives `s` and `rest` back.
-/

namespace DocSite.Toml

open DocSite.Unicode (hexDigit?)

/-- A function that reads a value off the front of a text. -/
abbrev Reader (α : Type) := List Char → Option (α × List Char)

/-! ## Reading -/

/-- The character that one letter behind a backslash stands for. -/
def simpleEscape? : Char → Option Char
  | 'b' => some '\x08'
  | 't' => some '\t'
  | 'n' => some '\n'
  | 'f' => some '\x0c'
  | 'r' => some '\r'
  | '"' => some '"'
  | '\\' => some '\\'
  | _ => none

/-- The character with a given code point; surrogates and numbers beyond
the last code point have none. -/
def scalar? (code : Nat) : Option Char :=
  if h : code.isValidChar then some (Char.ofNatAux code h) else none

/-- **What a basic string is in the middle of.** -/
inductive Escape where
  /-- Nothing: the next character stands for itself. -/
  | none
  /-- A backslash has been read. -/
  | begun
  /-- So many hexadecimal digits of a code point are still to come, and
  those read so far make up `code`. -/
  | digits (missing code : Nat)

/-- A character that may stand unescaped in a basic string. -/
def isPlain (c : Char) : Bool :=
  isText c && c != '"' && c != '\\'

/-- **The inside of a basic string**, up to and with the closing
quote. -/
def basicBody : Escape → Reader (List Char)
  | _, [] => Option.none
  | .none, c :: rest =>
    if c = '"' then some ([], rest)
    else if c = '\\' then basicBody .begun rest
    else if isPlain c then (basicBody .none rest).map fun (s, rest) => (c :: s, rest)
    else Option.none
  | .begun, c :: rest =>
    if c = 'u' then basicBody (.digits 4 0) rest
    else if c = 'U' then basicBody (.digits 8 0) rest
    else match simpleEscape? c with
      | some e => (basicBody .none rest).map fun (s, rest) => (e :: s, rest)
      | Option.none => Option.none
  | .digits missing code, c :: rest =>
    match hexDigit? c with
    | Option.none => Option.none
    | some d =>
      if missing ≤ 1 then
        match scalar? (16 * code + d) with
        | Option.none => Option.none
        | some e => (basicBody .none rest).map fun (s, rest) => (e :: s, rest)
      else basicBody (.digits (missing - 1) (16 * code + d)) rest

/-- The inside of a literal string, up to and with the closing quote. -/
def literalBody : Reader (List Char)
  | [] => none
  | c :: rest =>
    if c = '\'' then some ([], rest)
    else if isText c then (literalBody rest).map fun (s, rest) => (c :: s, rest)
    else none

/-- **What a multi-line basic string is in the middle of.** -/
inductive Block where
  /-- Nothing. -/
  | none
  /-- A backslash has been read. -/
  | begun
  /-- So many hexadecimal digits of a code point are still to come, and
  those read so far make up `code`. -/
  | digits (missing code : Nat)
  /-- A run of so many double quotes. -/
  | quotes (count : Nat)
  /-- A backslash at a line end, which passes over all blanks and line
  ends up to the next other character. `ended` says that the line end has
  been reached. -/
  | continuation (ended : Bool)

/-- **The inside of a multi-line basic string**, up to and with the
closing quotes. Three double quotes close it; two more directly before
them belong to the string. -/
def basicBlock : Block → Reader (List Char)
  | .quotes count, [] =>
    if 3 ≤ count then some (List.replicate (count - 3) '"', []) else Option.none
  | _, [] => Option.none
  | .none, '\n' :: rest => (basicBlock .none rest).map fun (s, rest) => ('\n' :: s, rest)
  | .none, '\r' :: '\n' :: rest => (basicBlock .none rest).map fun (s, rest) => ('\n' :: s, rest)
  | .none, c :: rest =>
    if c = '"' then basicBlock (.quotes 1) rest
    else if c = '\\' then basicBlock .begun rest
    else if isPlain c then (basicBlock .none rest).map fun (s, rest) => (c :: s, rest)
    else Option.none
  | .begun, c :: rest =>
    if c = 'u' then basicBlock (.digits 4 0) rest
    else if c = 'U' then basicBlock (.digits 8 0) rest
    else if isBlank c then basicBlock (.continuation false) rest
    else if c = '\n' then basicBlock (.continuation true) rest
    else if c = '\r' then
      match rest with
      | '\n' :: rest => basicBlock (.continuation true) rest
      | _ => Option.none
    else match simpleEscape? c with
      | some e => (basicBlock .none rest).map fun (s, rest) => (e :: s, rest)
      | Option.none => Option.none
  | .digits missing code, c :: rest =>
    match hexDigit? c with
    | Option.none => Option.none
    | some d =>
      if missing ≤ 1 then
        match scalar? (16 * code + d) with
        | Option.none => Option.none
        | some e => (basicBlock .none rest).map fun (s, rest) => (e :: s, rest)
      else basicBlock (.digits (missing - 1) (16 * code + d)) rest
  | .continuation ended, c :: rest =>
    if isBlank c then basicBlock (.continuation ended) rest
    else if c = '\n' then basicBlock (.continuation true) rest
    else if c = '\r' then
      match rest with
      | '\n' :: rest => basicBlock (.continuation true) rest
      | _ => Option.none
    else if !ended then Option.none
    else if c = '"' then basicBlock (.quotes 1) rest
    else if c = '\\' then basicBlock .begun rest
    else if isPlain c then (basicBlock .none rest).map fun (s, rest) => (c :: s, rest)
    else Option.none
  | .quotes count, c :: rest =>
    if c = '"' then
      if count = 4 then some (['"', '"'], rest) else basicBlock (.quotes (count + 1)) rest
    else if 3 ≤ count then some (List.replicate (count - 3) '"', c :: rest)
    else
      let quoted := List.replicate count '"'
      if c = '\n' then (basicBlock .none rest).map fun (s, rest) => (quoted ++ '\n' :: s, rest)
      else if c = '\r' then
        match rest with
        | '\n' :: rest => (basicBlock .none rest).map fun (s, rest) => (quoted ++ '\n' :: s, rest)
        | _ => Option.none
      else if c = '\\' then
        (basicBlock .begun rest).map fun (s, rest) => (quoted ++ s, rest)
      else if isPlain c then
        (basicBlock .none rest).map fun (s, rest) => (quoted ++ c :: s, rest)
      else Option.none

/-- **The inside of a multi-line literal string**, up to and with the
closing quotes, `count` single quotes having been read just before. -/
def literalBlock : Nat → Reader (List Char)
  | count, [] => if 3 ≤ count then some (List.replicate (count - 3) '\'', []) else none
  | count, c :: rest =>
    if c = '\'' then
      if count = 4 then some (['\'', '\''], rest) else literalBlock (count + 1) rest
    else if 3 ≤ count then some (List.replicate (count - 3) '\'', c :: rest)
    else
      let quoted := List.replicate count '\''
      if c = '\n' then (literalBlock 0 rest).map fun (s, rest) => (quoted ++ '\n' :: s, rest)
      else if c = '\r' then
        match rest with
        | '\n' :: rest => (literalBlock 0 rest).map fun (s, rest) => (quoted ++ '\n' :: s, rest)
        | _ => none
      else if isText c then (literalBlock 0 rest).map fun (s, rest) => (quoted ++ c :: s, rest)
      else none

/-- Drops a line end directly behind opening quotes. -/
def dropNewline (text : List Char) : List Char :=
  (newline? text).getD text

/-- A string on one line, as keys are written. -/
def lineString? : Reader (List Char)
  | '"' :: rest => basicBody .none rest
  | '\'' :: rest => literalBody rest
  | _ => none

/-- **A string in any of the four forms.** -/
def string? : Reader (List Char)
  | '"' :: '"' :: '"' :: rest => basicBlock .none (dropNewline rest)
  | '\'' :: '\'' :: '\'' :: rest => literalBlock 0 (dropNewline rest)
  | text => lineString? text

/-! ## Writing -/

/-- The length of the longest run of `quote`, `current` being the length
of the run just before. -/
def longestRun (quote : Char) : Nat → List Char → Nat
  | current, [] => current
  | current, c :: rest =>
    if c = quote then longestRun quote (current + 1) rest
    else max current (longestRun quote 0 rest)

/-- A control character that only an escape can write. -/
def needsEscape (c : Char) : Bool :=
  (c.toNat < 0x20 && c != '\t' && c != '\n') || c.toNat == 0x7F

/-- **The four forms of a string.** -/
inductive Form where
  /-- Between double quotes, with escapes. -/
  | basic
  /-- Between single quotes, as it is. -/
  | literal
  /-- Between tripled double quotes. -/
  | basicBlock
  /-- Between tripled single quotes. -/
  | literalBlock
deriving DecidableEq

/-- **The form in which a string is written**: the first of the four that
shows every character as itself, a basic form failing that. -/
def form (s : List Char) : Form :=
  let escapes := s.any needsEscape
  let backslash := s.contains '\\'
  let lineFeed := s.contains '\n'
  let doubles := longestRun '"' 0 s
  let singles := longestRun '\'' 0 s
  if !escapes && !backslash && doubles == 0 && !lineFeed then .basic
  else if !escapes && singles == 0 && !lineFeed then .literal
  else if !escapes && !backslash && doubles ≤ 2 then .basicBlock
  else if !escapes && singles ≤ 2 then .literalBlock
  else if lineFeed then .basicBlock
  else .basic

/-- Four upper-case hexadecimal digits. -/
def fourDigits (n : Nat) : List Char :=
  let digits := (Nat.toDigits 16 n).map Char.toUpper
  List.replicate (4 - digits.length) '0' ++ digits

/-- The escape of a character in a basic string. Where `block` is set the
string runs over several lines and a line feed is written as it is. -/
def escaped? (block : Bool) (c : Char) : Option (List Char) :=
  if c = '\x08' then some ['\\', 'b']
  else if c = '\t' then some ['\\', 't']
  else if c = '\n' then if block then none else some ['\\', 'n']
  else if c = '\x0c' then some ['\\', 'f']
  else if c = '\r' then some ['\\', 'r']
  else if c = '\\' then some ['\\', '\\']
  else if c.toNat < 0x20 || c.toNat == 0x7F then some (['\\', 'u'] ++ fourDigits c.toNat)
  else none

/-- **The inside of a basic string.** `quotes` counts the double quotes
written just before: on one line every quote is escaped, in a block every
third of a run. -/
def writeBasic (block : Bool) : Nat → List Char → List Char
  | _, [] => []
  | quotes, c :: rest =>
    if c = '"' then
      if block && quotes < 2 then '"' :: writeBasic block (quotes + 1) rest
      else '\\' :: '"' :: writeBasic block 0 rest
    else
      match escaped? block c with
      | some e => e ++ writeBasic block 0 rest
      | none => c :: writeBasic block 0 rest

/-- A string in a given form. A block begins with a line end of its own
if the string has a line feed. -/
def encodeAs (f : Form) (s : List Char) : List Char :=
  let opening := if s.contains '\n' then ['\n'] else []
  match f with
  | .basic => '"' :: writeBasic false 0 s ++ ['"']
  | .literal => '\'' :: s ++ ['\'']
  | .basicBlock => ['"', '"', '"'] ++ opening ++ writeBasic true 0 s ++ ['"', '"', '"']
  | .literalBlock => ['\'', '\'', '\''] ++ opening ++ s ++ ['\'', '\'', '\'']

/-- **The written form of a string.** -/
def encode (s : List Char) : List Char :=
  encodeAs (form s) s

end DocSite.Toml
