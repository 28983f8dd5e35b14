import DocSite.Export.Format
import DocSite.Site.Builder

/-!
# The first configuration

The configuration that a new site starts with: all packages of the
framework, one social link, and a sidebar to be filled.
-/

namespace DocSite

/-- The name of the program. -/
def programName : String := "platforma-docs"

/-- The version of the program. -/
def programVersion : String := "0.1.0"

/-- The packages that have a page of documentation. -/
def frameworkPackages : List String :=
  ["application", "auth", "database", "fileserver", "httpclient", "httpserver", "log",
   "openapiserver", "queue", "scheduler", "session"]

/-- The calls that put the first configuration together. -/
def starterCalls : List Builder.Call :=
  frameworkPackages.map .package
    ++ [.social ⟨.github, "GitHub", "https://github.com/mishankov/platforma"⟩,
      .entry (.slug "getting-started"),
      .entry (.group "Packages" [.package "database", .package "httpserver"] false)]

/-- **The configuration that a new site starts with.** -/
def starter : SiteConfig :=
  Builder.assemble "platforma" starterCalls

/-- **The text of its file**, behind a comment. -/
def starterText : String :=
  "# platforma docs configuration (" ++ programName ++ " v" ++ programVersion ++ ")\n\n"
    ++ Export.tomlText starter

end DocSite
