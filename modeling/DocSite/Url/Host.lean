import DocSite.Url.Error
import DocSite.Url.HostName
import DocSite.Url.Ipv4
import DocSite.Url.Ipv6
import DocSite.Url.Percent

/-!
# Hosts

The host of a URL is a domain or an address. Schemes of the web read it
as an international name, in which percent signs may hide characters;
other schemes take its characters as they are, but for a few that no
host may have.
-/

namespace DocSite.Url

/-- **The host of a URL.** -/
inductive Host where
  /-- A name. -/
  | domain (name : List Char)
  /-- An IPv4 address, below `2 ^ 32`. -/
  | ipv4 (address : Nat)
  /-- An IPv6 address, by its eight pieces. -/
  | ipv6 (pieces : List Nat)
deriving DecidableEq

/-- A character that no host may have: it would end the host, or be
lost. -/
def isHostForbidden (c : Char) : Bool :=
  c == '\x00' || c == '\t' || c == '\n' || c == '\r' || c == ' ' || c == '#' || c == '/'
    || c == ':' || c == '<' || c == '>' || c == '?' || c == '@' || c == '[' || c == '\\'
    || c == ']' || c == '^' || c == '|'

/-- A character that no domain may have. -/
def isDomainForbidden (c : Char) : Bool :=
  isHostForbidden c || isControl c || c == '%'

/-- The inside of brackets, if a text has brackets around it. -/
def bracketed? (text : List Char) : Option (List Char) :=
  match text with
  | '[' :: rest => if rest.getLast? = some ']' then some rest.dropLast else none
  | _ => none

/-- An address in brackets. -/
def bracketedHost (text : List Char) : Except Error Host :=
  match (bracketed? text).bind ipv6? with
  | some pieces => .ok (.ipv6 pieces)
  | none => .error .ipv6

/-- **The host of a scheme of the web.** -/
def webHost (text : List Char) : Except Error Host :=
  if text.head? = some '[' then bracketedHost text
  else match (decodeUtf8? (percentDecode text)).bind hostName? with
    | none => .error .domainName
    | some name =>
      if name.any isDomainForbidden then .error .domainName
      else if name.isEmpty then .error .emptyHost
      else if endsInNumber name then
        match ipv4? name with
        | some address => .ok (.ipv4 address)
        | none => .error .ipv4
      else .ok (.domain name)

/-- **The host of any other scheme.** -/
def opaqueHost (text : List Char) : Except Error Host :=
  if text.head? = some '[' then bracketedHost text
  else if text.any isHostForbidden then .error .domainCharacter
  else .ok (.domain (percentEncode isControl text))

theorem webHost_ne_empty (text : List Char) : webHost text ≠ .ok (.domain []) := by
  unfold webHost
  split
  · unfold bracketedHost
    split <;> simp
  · split
    · simp
    · rename_i name _
      split
      · simp
      · split
        · simp
        · split
          · split <;> simp
          · rename_i hne _
            simp only [ne_eq, Except.ok.injEq, Host.domain.injEq]
            intro h
            simp [h] at hne

end DocSite.Url
