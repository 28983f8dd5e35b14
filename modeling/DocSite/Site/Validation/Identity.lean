import DocSite.Site.Defect
import DocSite.Text.Blank
import DocSite.Url.Basic

/-!
# The identity of a site

A site has a title, may have an address, which has to be one of the web,
and may have a base, which has to be an absolute path without blanks.
-/

namespace DocSite.Validation

/-- The schemes that sites are served by. -/
def siteSchemes : List (List Char) :=
  ["http".toList, "https".toList]

/-- The defects of a title. -/
def titleDefects (title : String) : List (Located Defect) :=
  if Text.blank title then [⟨⟨"title", []⟩, .blankTitle⟩] else []

/-- The defects of the address of a site. A URL may have two at once: a
scheme that sites are not served by, and no host. -/
def addressDefects (address : String) : List (Located Defect) :=
  match Url.parse address.toList with
  | .error e => [⟨⟨"site", []⟩, .siteUrl e⟩]
  | .ok url =>
    (if siteSchemes.contains url.scheme then []
      else [⟨⟨"site", []⟩, .siteScheme (String.ofList url.scheme)⟩])
    ++ (if url.host.isSome then [] else [⟨⟨"site", []⟩, .siteHost⟩])

/-- The defects of a base. -/
def baseDefects (base : String) : List (Located Defect) :=
  (if base.toList.head? = some '/' then [] else [⟨⟨"base", []⟩, .baseStart base⟩])
    ++ (if Text.hasBlank base then [⟨⟨"base", []⟩, .baseBlank base⟩] else [])

/-- **The defects of the identity of a site.** -/
def identityDefects (title : String) (site base : Option String) : List (Located Defect) :=
  titleDefects title ++ site.elim [] addressDefects ++ base.elim [] baseDefects

end DocSite.Validation
