/-!
# Why a text is no URL
-/

namespace DocSite.Url

/-- **The ways in which a text fails to be a URL.** -/
inductive Error where
  /-- There is no scheme, and nothing the text could be relative to. -/
  | noScheme
  /-- A host is required and there is none. -/
  | emptyHost
  /-- The host is no international domain name. -/
  | domainName
  /-- The host of a scheme without rules of its own has a character that
  no host may have. -/
  | domainCharacter
  /-- The port is not a number below `2 ^ 16`. -/
  | port
  /-- The host ends like an IPv4 address and is none. -/
  | ipv4
  /-- The host is in brackets and no IPv6 address. -/
  | ipv6
deriving DecidableEq

/-- **The wording of an error.** -/
def Error.message : Error → String
  | noScheme => "relative URL without a base"
  | emptyHost => "empty host"
  | domainName => "invalid international domain name"
  | domainCharacter => "invalid domain character"
  | port => "invalid port number"
  | ipv4 => "invalid IPv4 address"
  | ipv6 => "invalid IPv6 address"

end DocSite.Url
