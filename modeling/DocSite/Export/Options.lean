import DocSite.Data.Doc
import DocSite.Site.Base

/-!
# Configurations as documents

What the documentation theme is told of a configuration, its options, is
a record of the title, the description, the social links and the sidebar.
A configuration file has all fields, and leaves out those with nothing in
them.
-/

namespace DocSite

mutual

/-- **An entry of the sidebar as a document.** The flag of a group is
written only where it is set. -/
def Entry.doc : Entry → Doc
  | .slug s => .text s
  | .group label items collapsed =>
    .record ([("label", .text label), ("items", .list (Entry.docs items))]
      ++ if collapsed then [("collapsed", .flag true)] else [])
  | .autogenerate label directory collapsed =>
    .record ([("label", .text label),
        ("autogenerate", .record [("directory", .text directory)])]
      ++ if collapsed then [("collapsed", .flag true)] else [])
  | .link label target => .record [("label", .text label), ("link", .text target)]
  | .page s label =>
    .record (("slug", .text s) :: match label with
      | some text => [("label", .text text)]
      | none => [])

/-- Entries as documents. -/
def Entry.docs : List Entry → List Doc
  | [] => []
  | entry :: entries => entry.doc :: Entry.docs entries

end

/-- A social link as a document. -/
def SocialLink.doc (link : SocialLink) : Doc :=
  .record [("icon", .text link.icon.name), ("label", .text link.label),
    ("href", .text link.href)]

namespace SiteConfig

/-- A field with a text, if there is one. -/
def textField (name : String) (text : Option String) : List (String × Doc) :=
  match text with
  | some s => [(name, .text s)]
  | none => []

/-- A field with a list, if it is not empty. -/
def listField (name : String) (items : List Doc) : List (String × Doc) :=
  if items.isEmpty then [] else [(name, .list items)]

/-- **The options of the theme.** -/
def options (config : SiteConfig) : Doc :=
  .record ([("title", .text config.title)]
    ++ textField "description" config.description
    ++ [("social", .list (config.social.map SocialLink.doc)),
      ("sidebar", .list (Entry.docs config.sidebar))])

/-- **All that the generator of the site is told**: where the site is
served, and the options of the theme. -/
def generatorDoc (config : SiteConfig) : Doc :=
  .record (textField "site" config.site ++ textField "base" config.servedBase?
    ++ [("starlight", config.options)])

/-- **The fields of the configuration file.** -/
def fileFields (config : SiteConfig) : List (String × Doc) :=
  [("title", .text config.title)]
    ++ textField "description" config.description
    ++ textField "site" config.site
    ++ textField "base" config.base
    ++ listField "packages" (config.packages.map .text)
    ++ listField "social" (config.social.map SocialLink.doc)
    ++ listField "sidebar" (Entry.docs config.sidebar)

end SiteConfig

end DocSite
