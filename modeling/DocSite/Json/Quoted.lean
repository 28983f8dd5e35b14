import DocSite.Unicode.RangeTable

/-!
# Strings in JSON

A JSON string stands between double quotes. A quote, a backslash and the
control characters are written with escapes; everything else stands for
itself.

A reader that only skips a string checks that its escapes are well
formed, and not that the code units they write pair up. So reading has
three outcomes: a text, an end without a text, and no end.
-/

namespace DocSite.Json

open DocSite.Unicode (hexDigit?)

/-- **The outcome of reading a string.** -/
inductive Reading where
  /-- The string. -/
  | text (value : List Char) (rest : List Char)
  /-- The string ends, but half a surrogate pair stands in it. -/
  | unpaired (rest : List Char)
  /-- The string has no end, a control character or a wrong escape. -/
  | broken

/-- Puts a character in front of the string that follows. -/
def Reading.cons (c : Char) : Reading → Reading
  | .text value rest => .text (c :: value) rest
  | other => other

/-- Half a surrogate pair stands in front of the string that follows. -/
def Reading.unpair : Reading → Reading
  | .text _ rest => .unpaired rest
  | other => other

/-- The character that one letter behind a backslash stands for. -/
def simpleEscape? : Char → Option Char
  | '"' => some '"'
  | '\\' => some '\\'
  | '/' => some '/'
  | 'b' => some '\x08'
  | 'f' => some '\x0c'
  | 'n' => some '\n'
  | 'r' => some '\r'
  | 't' => some '\t'
  | _ => none

/-- **What a string is in the middle of.** Everywhere `high` is the
leading half of a surrogate pair that has been read and waits for its
other half. -/
inductive Unit16 where
  /-- Nothing: the next character stands for itself. -/
  | none
  /-- A backslash has been read. -/
  | begun
  /-- So many hexadecimal digits are still to come. -/
  | digits (missing code : Nat)

/-- Whether a code unit is the leading half of a pair. -/
def isHigh (unit : Nat) : Bool :=
  0xD800 ≤ unit && unit ≤ 0xDBFF

/-- Whether a code unit is the trailing half of a pair. -/
def isLow (unit : Nat) : Bool :=
  0xDC00 ≤ unit && unit ≤ 0xDFFF

/-- **The inside of a string**, up to and with the closing quote. -/
def body : (high : Option Nat) → Unit16 → List Char → Reading
  | _, _, [] => .broken
  | high, .none, c :: rest =>
    if c = '\\' then body high .begun rest
    else
      let here :=
        if c = '"' then .text [] rest
        else if c.toNat < 0x20 then .broken
        else (body Option.none .none rest).cons c
      if high.isSome then here.unpair else here
  | high, .begun, c :: rest =>
    if c = 'u' then body high (.digits 4 0) rest
    else match simpleEscape? c with
      | some e =>
        let here := (body Option.none .none rest).cons e
        if high.isSome then here.unpair else here
      | Option.none => .broken
  | high, .digits missing code, c :: rest =>
    match hexDigit? c with
    | Option.none => .broken
    | some d =>
      let unit := 16 * code + d
      if 1 < missing then body high (.digits (missing - 1) unit) rest
      else match high with
        | some first =>
          if isLow unit then
            (body Option.none .none rest).cons
              (Char.ofNat (0x10000 + (first - 0xD800) * 0x400 + (unit - 0xDC00)))
          else if isHigh unit then (body (some unit) .none rest).unpair
          else ((body Option.none .none rest).cons (Char.ofNat unit)).unpair
        | Option.none =>
          if isHigh unit then body (some unit) .none rest
          else if isLow unit then (body Option.none .none rest).unpair
          else (body Option.none .none rest).cons (Char.ofNat unit)

/-- A string, the opening quote of which has been read. -/
def string (text : List Char) : Reading :=
  body none .none text

/-- The escape of a character, if it needs one. -/
def escaped? (c : Char) : Option (List Char) :=
  if c = '"' then some ['\\', '"']
  else if c = '\\' then some ['\\', '\\']
  else if c = '\x08' then some ['\\', 'b']
  else if c = '\x0c' then some ['\\', 'f']
  else if c = '\n' then some ['\\', 'n']
  else if c = '\r' then some ['\\', 'r']
  else if c = '\t' then some ['\\', 't']
  else if c.toNat < 0x20 then
    some ['\\', 'u', '0', '0', Nat.digitChar (c.toNat / 16), Nat.digitChar (c.toNat % 16)]
  else none

/-- **The written form of a string.** -/
def encode (s : List Char) : List Char :=
  '"' :: s.flatMap (fun c => (escaped? c).getD [c]) ++ ['"']

end DocSite.Json
