import DocSite.Site.Config
import DocSite.Url.Basic

/-!
# The path a site is served under

A site may be served from the root of its host or from a path below it,
its base. The base is what the configuration says; where it says nothing,
the path in the address of the site is the base.
-/

namespace DocSite

/-- The base that an address implies: its path without the slashes around
it, behind one slash. A site at the root of its host has none. -/
def baseOfAddress? (address : String) : Option String :=
  match Url.parse address.toList with
  | .error _ => none
  | .ok url =>
    let path := Text.trimSlashes url.path
    if path.isEmpty then none else some (String.ofList ('/' :: path))

/-- **The base a site is served under**, if it is not the root. -/
def SiteConfig.servedBase? (config : SiteConfig) : Option String :=
  match config.base with
  | some base => some base
  | none => config.site.bind baseOfAddress?

end DocSite
