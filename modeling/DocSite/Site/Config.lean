import DocSite.Site.Entry
import DocSite.Site.Icon

/-!
# The configuration of a documentation site

What a configuration file describes: the identity of the site, the
packages it documents, the social links in its header and its sidebar.
Nothing here is checked – a configuration may be as wrong as its file.
-/

namespace DocSite

/-- **A social link in the header of the site.** -/
structure SocialLink where
  /-- The icon that stands for the link. -/
  icon : Icon
  /-- What a reader who cannot see the icon is told. -/
  label : String
  /-- Where the link leads. -/
  href : String
deriving DecidableEq

/-- **The configuration of a site.** -/
structure SiteConfig where
  /-- The title of the site. -/
  title : String
  /-- A sentence about the site. -/
  description : Option String := none
  /-- The address the site is served at. -/
  site : Option String := none
  /-- The path the site is served under. -/
  base : Option String := none
  /-- The packages that have a page; if there are none, no reference to a
  package is checked. -/
  packages : List String := []
  /-- The social links, in the order of the header. -/
  social : List SocialLink := []
  /-- The sidebar, in the order of the page. -/
  sidebar : List Entry := []
deriving DecidableEq

/-- The name a configuration file has unless another is asked for. -/
def configFileName : String := "docs.toml"

end DocSite
