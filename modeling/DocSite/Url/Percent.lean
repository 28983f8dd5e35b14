import DocSite.Unicode.RangeTable

/-!
# Percent encoding

A URL is written in ASCII. Other characters, and those a component
reserves, are written as the bytes of their UTF-8 form, each as a percent
sign and two upper-case hexadecimal digits. Percent signs that are
already there are left alone, so encoding twice does no harm.
-/

namespace DocSite.Url

open DocSite.Unicode (hexDigit?)

/-- Controls, which every component encodes. -/
def isControl (c : Char) : Bool :=
  c.toNat < 0x20 || c.toNat == 0x7F

/-- **What a path encodes** beside controls and everything that is not
ASCII. -/
def isPathReserved (c : Char) : Bool :=
  isControl c || c == ' ' || c == '"' || c == '<' || c == '>' || c == '`' || c == '#' || c == '?'
    || c == '\x7b' || c == '\x7d'

/-- A byte as a percent sign and two digits. -/
def encodeByte (byte : UInt8) : List Char :=
  let n := byte.toNat
  ['%', (Nat.digitChar (n / 16)).toUpper, (Nat.digitChar (n % 16)).toUpper]

/-- A character as the bytes of its UTF-8 form. -/
def encodeChar (c : Char) : List Char :=
  (String.utf8EncodeChar c).flatMap encodeByte

/-- **Encodes what is reserved and what is not ASCII.** -/
def percentEncode (isReserved : Char → Bool) (text : List Char) : List Char :=
  text.flatMap fun c => if isReserved c || 0x80 ≤ c.toNat then encodeChar c else [c]

/-- **The bytes that a text with percent signs writes.** A percent sign
that is not followed by two hexadecimal digits stands for itself. -/
def percentDecode : List Char → List UInt8
  | [] => []
  | '%' :: a :: b :: rest =>
    match hexDigit? a, hexDigit? b with
    | some high, some low => UInt8.ofNat (16 * high + low) :: percentDecode rest
    | _, _ => '%'.val.toUInt8 :: percentDecode (a :: b :: rest)
  | c :: rest => String.utf8EncodeChar c ++ percentDecode rest
termination_by text => text.length

/-- The text of bytes in UTF-8, if they are well formed. -/
def decodeUtf8? (bytes : List UInt8) : Option (List Char) :=
  (String.fromUTF8? ⟨bytes.toArray⟩).map String.toList

end DocSite.Url
