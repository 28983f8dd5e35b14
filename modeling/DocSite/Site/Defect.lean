import DocSite.Site.Icon
import DocSite.Site.Place
import DocSite.Site.RelativePath
import DocSite.Url.Error

/-!
# What can be wrong with a configuration

A configuration that could be read may still be unusable. Each way in
which it is has a cause of its own – a `Defect` – and a place; so has
each thing that is merely odd, a `Caution`. Wording comes last: a message
and, for most defects, a hint at the remedy.
-/

namespace DocSite

/-- **Something and the place where it was found.** -/
structure Located (α : Type) where
  /-- The place. -/
  place : Place
  /-- What was found there. -/
  what : α
deriving DecidableEq

/-- **What makes a configuration unusable.** -/
inductive Defect where
  /-- The title is blank. -/
  | blankTitle
  /-- The address of the site is no URL. -/
  | siteUrl (error : Url.Error)
  /-- The address of the site has a scheme a site is not served by. -/
  | siteScheme (scheme : String)
  /-- The address of the site has no host. -/
  | siteHost
  /-- The base path does not begin with a slash. -/
  | baseStart (base : String)
  /-- The base path has blanks. -/
  | baseBlank (base : String)
  /-- The label of a social link is blank. -/
  | blankLinkLabel (icon : Icon)
  /-- A social link leads to no URL. -/
  | hrefUrl (href : String) (error : Url.Error)
  /-- A social link leads to a page without a host. -/
  | hrefHost
  /-- An entry has the key of a sibling before it. -/
  | sharedKey (key : String)
  /-- The label of an entry is blank. -/
  | blankLabel
  /-- A slug is no relative path. -/
  | slug (slug : String) (fault : RelativePath.Fault)
  /-- A slug names the page of a package that is not among the known. -/
  | unknownPackage (name : String) (known : List String)
  /-- A link is neither a path nor a URL. -/
  | link (target : String) (error : Url.Error)
  /-- A group has no entries. -/
  | emptyGroup (label : String)
  /-- A listed directory is no relative path. -/
  | directory (fault : RelativePath.Fault)
  /-- There is no page for a slug. -/
  | missingPage (slug content : String)
  /-- A listed directory does not exist. -/
  | missingDirectory (path : String)
deriving DecidableEq

namespace Defect

/-- **The wording of a defect.** -/
def message : Defect → String
  | .blankTitle => "site title must not be empty"
  | .siteUrl error => "invalid URL: " ++ error.message
  | .siteScheme scheme => "scheme '" ++ scheme ++ "' not supported, must be http or https"
  | .siteHost => "URL must have a valid host"
  | .baseStart base => "base path `" ++ base ++ "` must start with `/`"
  | .baseBlank base => "base path `" ++ base ++ "` must not contain whitespace"
  | .blankLinkLabel icon => icon.name ++ " link has an empty label"
  | .hrefUrl href error => "invalid URL `" ++ href ++ "`: " ++ error.message
  | .hrefHost => "URL must have a valid host"
  | .sharedKey key => "duplicate sibling label `" ++ key ++ "`"
  | .blankLabel => "label must not be empty"
  | .slug text fault => "invalid slug `" ++ text ++ "`: " ++ fault.text
  | .unknownPackage name _ => "unknown package `" ++ name ++ "`"
  | .link target error => "invalid link `" ++ target ++ "`: " ++ error.message
  | .emptyGroup label => "group `" ++ label ++ "` has no items"
  | .directory fault => "invalid directory: " ++ fault.text
  | .missingPage page _ => "no page for slug `" ++ page ++ "`"
  | .missingDirectory path => "directory `" ++ path ++ "` not found"

/-- An absolute form of a base path. -/
def absoluteBase (base : String) : String :=
  "/" ++ String.ofList (base.toList.dropWhile (· == '/'))

/-- **A hint at the remedy**, where there is one to be given. -/
def hint? : Defect → Option String
  | .blankTitle => some "set title, e.g.: \"platforma\""
  | .siteUrl _ => some "use format like https://example.com"
  | .siteScheme _ => some "use format like https://example.com"
  | .siteHost => some "use format like https://example.com"
  | .baseStart base => some ("use \"" ++ absoluteBase base ++ "\"")
  | .baseBlank _ => none
  | .blankLinkLabel _ => some "set a readable label, e.g.: \"GitHub\""
  | .hrefUrl _ _ => some "use format like https://github.com/owner/repo"
  | .hrefHost => some "use format like https://github.com/owner/repo"
  | .sharedKey _ => some "labels must be unique within a group"
  | .blankLabel => none
  | .slug _ _ => some "use a path relative to the content root, e.g.: \"guides/intro\""
  | .unknownPackage _ known => some ("known packages: " ++ ", ".intercalate known)
  | .link _ _ => some "use an absolute path (\"/guides/\") or a full URL"
  | .emptyGroup _ => some "add entries or remove the group"
  | .directory _ => none
  | .missingPage page content =>
    some ("create " ++ content ++ "/" ++ page ++ ".md or " ++ content ++ "/" ++ page ++ "/index.md")
  | .missingDirectory _ => none

end Defect

/-- **What is odd about a usable configuration.** -/
inductive Caution where
  /-- A slug has capital letters. -/
  | capitals (slug : String)
  /-- A social link leads where one before it leads. -/
  | repeatedHref (href : String)
deriving DecidableEq

/-- **The wording of a caution.** -/
def Caution.message : Caution → String
  | .capitals slug => "slug `" ++ slug ++ "` contains uppercase characters"
  | .repeatedHref href => "duplicate link `" ++ href ++ "`"

end DocSite
