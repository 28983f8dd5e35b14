import DocSite.Export.Options
import DocSite.Json.Printer
import DocSite.Toml.Printer

/-!
# Exports

A configuration is exported as JSON for the generator of the site, as a
module that hands the same data to the generator, or as a configuration
file again.
-/

namespace DocSite

/-- **The formats of an export.** -/
inductive Export where
  /-- JSON for the generator. -/
  | json
  /-- A configuration file. -/
  | toml
  /-- A module for the generator. -/
  | mjs
deriving DecidableEq

namespace Export

/-- The JSON export. -/
def jsonText (config : SiteConfig) : String :=
  String.ofList (Json.pretty config.generatorDoc)

/-- The configuration file. -/
def tomlText (config : SiteConfig) : String :=
  String.ofList (Toml.write config.fileFields)

/-- A line of the module with a text under a name, if there is a text. -/
def settingLine (name : String) (text : Option String) : String :=
  match text with
  | some s => "  " ++ name ++ ": " ++ String.ofList (Json.encode s.toList) ++ ",\n"
  | none => ""

/-- The lines of a text, each but the first indented by four blanks. -/
def indented (text : List Char) : List Char :=
  ((Text.lines text).intersperse ['\n', ' ', ' ', ' ', ' ']).flatten

/-- What a module begins with. -/
def moduleStart : String :=
  "// @ts-check\n"
    ++ "import \x7b defineConfig \x7d from \"astro/config\";\n"
    ++ "import starlight from \"@astrojs/starlight\";\n\n"
    ++ "// https://astro.build/config\n"
    ++ "export default defineConfig(\x7b\n"

/-- What stands before the options of the theme. -/
def optionsStart : String := "  integrations: [\n    starlight("

/-- What a module ends with. -/
def moduleEnd : String := "),\n  ],\n\x7d);\n"

/-- **The module export.** -/
def moduleText (config : SiteConfig) : String :=
  moduleStart ++ settingLine "site" config.site ++ settingLine "base" config.servedBase?
    ++ optionsStart ++ String.ofList (indented (Json.pretty config.options)) ++ moduleEnd

/-- **The text of an export.** -/
def render (config : SiteConfig) : Export → String
  | json => jsonText config
  | toml => tomlText config
  | mjs => moduleText config

end Export

end DocSite
