import DocSite.Url.Host
import DocSite.Url.Path

/-!
# URLs

A URL is a scheme, a host where there is one, a path, and further parts
that are of no interest here. Browsers read URLs from text that people
type, so the rules for the schemes of the web are lenient: blanks around
the text and line ends inside it do not count, a backslash is a slash,
and any number of slashes may follow the scheme. Schemes that the web
does not know are read as they are written. Files are between the two.

`parse` is the whole of it: cut off the scheme, and let the kind of the
scheme decide about the rest.
-/

namespace DocSite

/-- **A URL.** -/
structure Url where
  /-- The scheme, in lower case. -/
  scheme : List Char
  /-- The host, if there is one. -/
  host : Option Url.Host
  /-- The path. -/
  path : List Char
deriving DecidableEq

namespace Url

/-! ## Schemes -/

/-- **What a scheme is to a browser.** -/
inductive Kind where
  /-- A scheme of the web, which always has a host. -/
  | web
  /-- Files. -/
  | file
  /-- Any other scheme. -/
  | other
deriving DecidableEq

/-- The kind of a scheme. -/
def Kind.ofScheme (scheme : List Char) : Kind :=
  if ["http", "https", "ws", "wss", "ftp"].any (·.toList == scheme) then .web
  else if scheme = "file".toList then .file
  else .other

/-- A character of a scheme. -/
def isSchemeChar (c : Char) : Bool :=
  isLetter c || isDigit c || c == '+' || c == '-' || c == '.'

/-- Cuts a scheme off: a letter, further characters, a colon. -/
def scheme? (text : List Char) : Option (List Char × List Char) :=
  match text.dropWhile isSchemeChar with
  | ':' :: rest =>
    let name := text.takeWhile isSchemeChar
    if name.head?.any isLetter then some (lowered name, rest) else none
  | _ => none

/-- A character that does not count at the ends of a text. -/
def isOuterBlank (c : Char) : Bool :=
  c.toNat ≤ 0x20

/-- A character that does not count anywhere. -/
def isLineBlank (c : Char) : Bool :=
  c == '\t' || c == '\n' || c == '\r'

/-- **What counts of a text.** -/
def significant (text : List Char) : List Char :=
  (((text.dropWhile isOuterBlank).reverse.dropWhile isOuterBlank).reverse).filter (!isLineBlank ·)

/-! ## The parts behind the scheme -/

/-- What ends a path. -/
def endsPath (c : Char) : Bool :=
  c == '?' || c == '#'

/-- A slash of either kind. -/
def isAnySlash (c : Char) : Bool :=
  c == '/' || c == '\\'

/-- A slash. -/
def isSlash (c : Char) : Bool :=
  c == '/'

/-- The text up to where the path ends. -/
def untilEnd (text : List Char) : List Char :=
  text.takeWhile (!endsPath ·)

/-- The text in front of the last at-sign, if there is one, and what is
behind it. -/
def cutAtLastAt (text : List Char) : Option (List Char) × List Char :=
  if text.contains '@' then
    let behind := (text.reverse.takeWhile (· != '@')).reverse
    (some (text.take (text.length - behind.length - 1)), behind)
  else (none, text)

/-- Cuts at the first colon that is not in brackets. -/
def cutAtPort : (inside : Bool) → List Char → List Char × List Char
  | _, [] => ([], [])
  | inside, c :: rest =>
    if c = ':' ∧ inside = false then ([], c :: rest)
    else
      let (host, port) :=
        cutAtPort (if c = '[' then true else if c = ']' then false else inside) rest
      (c :: host, port)

/-- The value of decimal digits. -/
def decimalValue (digits : List Char) : Nat :=
  digits.foldl (fun n c => 10 * n + (c.toNat - '0'.toNat)) 0

/-- **The port is a number that fits.** Its text may be empty. -/
def portFits (digits : List Char) : Bool :=
  digits.all isDigit && decimalValue digits < 0x10000

/-- **The authority of a URL**: credentials, a host and a port. -/
structure Authority where
  /-- Whether there are credentials that say anything. -/
  credentials : Bool
  /-- The host. -/
  host : List Char
  /-- The port with its colon. -/
  port : List Char

/-- **Takes an authority apart.** Credentials that say nothing are
refused if nothing but the next part of the URL follows them;
`followed` says that there is one. -/
def authority (followed : Bool) (text : List Char) : Except Error Authority :=
  let (credentials, rest) := cutAtLastAt text
  if credentials = some [] ∧ rest = [] ∧ followed then .error .emptyHost
  else
    let (host, port) := cutAtPort false rest
    .ok ⟨credentials.any (fun c => c != [] && c != [':']), host, port⟩

/-! ## The three kinds -/

/-- **A URL of the web**, behind its scheme. -/
def web (scheme rest : List Char) : Except Error Url := do
  let text := rest.dropWhile isAnySlash
  let ends := fun c => isAnySlash c || endsPath c
  let behind := text.dropWhile (!ends ·)
  let parts ← authority (!behind.isEmpty) (text.takeWhile (!ends ·))
  if parts.host.isEmpty then .error .emptyHost
  else
    let host ← webHost parts.host
    if portFits (parts.port.drop 1) then
      .ok ⟨scheme, some host, pathOf isAnySlash (untilEnd behind)⟩
    else .error .port

/-- The path behind a host of a scheme that the web does not know. It may
be empty, and has a slash in front if it is not. -/
def otherPath (text : List Char) : List Char :=
  if text.isEmpty then [] else pathOf isSlash text

/-- **A URL of another scheme with an authority**, behind two slashes.
A backslash ends the port. -/
def withAuthority (scheme text : List Char) : Except Error Url := do
  let ends := fun c => isSlash c || endsPath c
  let behind := text.dropWhile (!ends ·)
  let parts ← authority (!behind.isEmpty) (text.takeWhile (!ends ·))
  let host ← opaqueHost parts.host
  let port := parts.port.drop 1
  let digits := port.takeWhile (· != '\\')
  if host = .domain [] ∧ (parts.port ≠ [] ∨ parts.credentials) then .error .emptyHost
  else if portFits digits then
    .ok ⟨scheme, if host = .domain [] then none else some host,
      otherPath (untilEnd (port.dropWhile (· != '\\') ++ behind))⟩
  else .error .port

/-- **A URL of another scheme**, behind the scheme. -/
def other (scheme : List Char) : List Char → Except Error Url
  | '/' :: '/' :: rest => withAuthority scheme rest
  | '/' :: rest => .ok ⟨scheme, none, pathOf isSlash ('/' :: untilEnd rest)⟩
  | rest => .ok ⟨scheme, none, percentEncode isControl (untilEnd rest)⟩

/-- The host that the text between the slashes of a file names: none if
it is empty or this very machine. -/
def fileHost (text : List Char) : Except Error (Option Host) :=
  if text.isEmpty then .ok none
  else do
    let host ← webHost text
    .ok (if host = .domain "localhost".toList then none else some host)

/-- A file whose path begins right here, which may be with a drive
letter; that takes the host away. -/
def fileAt (scheme : List Char) (host : Option Host) (text : List Char) : Url :=
  let segments := segmentsOf isAnySlash (untilEnd text)
  ⟨scheme, if startsWithDrive segments then none else host, filePath (markDrive segments)⟩

/-- A file whose path begins with a slash. -/
def fileBehind (scheme text : List Char) : Url :=
  ⟨scheme, none, filePath (segmentsOf isAnySlash (dropSeparator isAnySlash (untilEnd text)))⟩

/-- **A URL of a file**, behind the scheme. -/
def file (scheme : List Char) : List Char → Except Error Url
  | [] => .ok (fileAt scheme none [])
  | [a] => .ok (if isAnySlash a then fileBehind scheme [a] else fileAt scheme none [a])
  | a :: b :: rest =>
    if isAnySlash a && isAnySlash b then
      let ends := fun c => isAnySlash c || endsPath c
      let name := rest.takeWhile (!ends ·)
      let behind := rest.dropWhile (!ends ·)
      if isDrive name then .ok (fileAt scheme none rest)
      else do
        match ← fileHost name with
        | none => .ok (fileBehind scheme behind)
        | some host => .ok (fileAt scheme (some host) (dropSeparator isAnySlash behind))
    else if isAnySlash a then .ok (fileBehind scheme (a :: b :: rest))
    else .ok (fileAt scheme none (a :: b :: rest))

/-- **Reads a URL.** -/
def parse (text : List Char) : Except Error Url :=
  match scheme? (significant text) with
  | none => .error .noScheme
  | some (scheme, rest) =>
    match Kind.ofScheme scheme with
    | .web => web scheme rest
    | .file => file scheme rest
    | .other => other scheme rest

end Url

end DocSite
