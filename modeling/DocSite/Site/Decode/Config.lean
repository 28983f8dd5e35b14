import DocSite.Json.Reader
import DocSite.Site.Config
import DocSite.Site.Decode.Entry
import DocSite.Site.Mismatch
import DocSite.Toml.Document

/-!
# Configurations from data

A configuration is read off a tree of data, field by field in the order
of the text, and the first mismatch ends it. The same rules hold for
TOML and JSON, but for three: what an array that stands for a social link
may hold beyond its three elements, how an icon may be written as a
table, and how deep a sidebar entry may nest.

The root accepts keys it does not know, and reports them where its reader
asks for that; everything below it refuses them. The field `base` has two
further names.
-/

namespace DocSite

/-- A result, or the reason why there is none. -/
abbrev Decoded (α : Type) := Except Unfit α

namespace Decoded

/-- Complains about a value of the wrong kind. -/
def wrongKind {α : Type} (data : Data) (expected : Expected) : Decoded α :=
  match Found.ofData? data with
  | some found => .error (.data (.kind found expected))
  | none => .error .text

/-- A text. -/
def string : Data → Decoded String
  | .string s => .ok s
  | data => wrongKind data .string

/-- A text that may be absent. -/
def optionalString : Data → Decoded (Option String)
  | .null => .ok none
  | data => (string data).map some

/-- Every element of an array, decoded in order. An array that is torn
fails at its end. -/
def list {α : Type} (item : Data → Decoded α) : Data → Decoded (List α)
  | .array items => items.mapM item
  | .torn (.array items) _ => do
    let _ ← items.mapM item
    .error .text
  | data => wrongKind data .sequence

/-- The icon with a name. -/
def iconNamed (name : String) : Decoded Icon :=
  match Icon.ofName? name with
  | some icon => .ok icon
  | none => .error (.data (.unknownIcon name))

/-- What TOML may have under the one key of an icon written as a table:
an empty table or array. -/
def tomlIconContent : Data → Decoded Unit
  | .array items => if items.isEmpty then .ok () else .error (.data .iconContent)
  | .table entries => if entries.isEmpty then .ok () else .error (.data .iconContent)
  | .string _ => .error (.data (.iconScalar "string"))
  | .integer _ => .error (.data (.iconScalar "integer"))
  | .float _ => .error (.data (.iconScalar "float"))
  | .boolean _ => .error (.data (.iconScalar "boolean"))
  | _ => .error (.data (.iconScalar "datetime"))

/-- An icon in TOML: its name, or a table with its name for a key. -/
def tomlIcon : Data → Decoded Icon
  | .string name => iconNamed name
  | .table [] => .error (.data (.iconKeys false))
  | .table [(name, content)] => do
    let icon ← iconNamed name
    tomlIconContent content
    .ok icon
  | .table _ => .error (.data (.iconKeys true))
  | _ => .error (.data .iconKind)

/-- What JSON may have under the one key of an icon written as a table:
a null. -/
def jsonIconContent : Data → Decoded Unit
  | .null => .ok ()
  | data => wrongKind data .unit

/-- An icon in JSON: its name, or a table with its name for a key. -/
def jsonIcon : Data → Decoded Icon
  | .string name => iconNamed name
  | .table [(name, content)] => do
    let icon ← iconNamed name
    jsonIconContent content
    .ok icon
  | .table ((name, content) :: _) => do
    let _ ← iconNamed name
    jsonIconContent content
    .error .text
  | .torn (.table ((name, content) :: _)) _ => do
    let _ ← iconNamed name
    jsonIconContent content
    .error .text
  | _ => .error .text

/-- An icon. -/
def icon : Format → Data → Decoded Icon
  | .toml => tomlIcon
  | .json => jsonIcon

/-! ## Social links -/

/-- **The fields of a social link read so far.** -/
structure LinkFields where
  /-- The icon. -/
  icon? : Option Icon := none
  /-- The label. -/
  label? : Option String := none
  /-- The target. -/
  href? : Option String := none

/-- Reads one field of a social link. -/
def LinkFields.read (format : Format) (fields : LinkFields) (key : String) (value : Data) :
    Decoded LinkFields :=
  if key = "icon" then
    if fields.icon?.isSome then .error (.data (.duplicateField "icon"))
    else (icon format value).map fun v => { fields with icon? := some v }
  else if key = "label" then
    if fields.label?.isSome then .error (.data (.duplicateField "label"))
    else (string value).map fun v => { fields with label? := some v }
  else if key = "href" then
    if fields.href?.isSome then .error (.data (.duplicateField "href"))
    else (string value).map fun v => { fields with href? := some v }
  else .error (.data (.unknownField key))

/-- Reads fields of a social link in order. -/
def LinkFields.readAll (format : Format) : List (String × Data) → LinkFields → Decoded LinkFields
  | [], fields => .ok fields
  | (key, value) :: entries, fields => do
    LinkFields.readAll format entries (← fields.read format key value)

/-- The value of a field that has to be there. -/
def require {α : Type} (name : String) : Option α → Decoded α
  | some value => .ok value
  | none => .error (.data (.missingField name))

/-- The social link whose fields have been read. -/
def LinkFields.link (fields : LinkFields) : Decoded SocialLink := do
  let icon ← require "icon" fields.icon?
  let label ← require "label" fields.label?
  let href ← require "href" fields.href?
  .ok ⟨icon, label, href⟩

/-- What is wrong with an array that ends before an element it needs. -/
def tooShort {α : Type} (torn : Bool) (found : Nat) (expected : Expected) : Decoded α :=
  .error (if torn then .text else .data (.length found expected))

/-- The social link that an array stands for. In TOML further elements
are passed over; in JSON they are no part of the text that is
expected. -/
def linkOfItems (format : Format) (torn : Bool) : List Data → Decoded SocialLink
  | [] => tooShort torn 0 .socialLink
  | first :: rest => do
    let icon ← icon format first
    match rest with
    | [] => tooShort torn 1 .socialLink
    | second :: rest =>
      let label ← string second
      match rest with
      | [] => tooShort torn 2 .socialLink
      | third :: rest =>
        let href ← string third
        if format = .json ∧ (torn ∨ rest ≠ []) then .error .text
        else .ok ⟨icon, label, href⟩

/-- **A social link.** -/
def socialLink (format : Format) : Data → Decoded SocialLink
  | .table entries => do (← LinkFields.readAll format entries {}).link
  | .torn (.table entries) _ => do
    let _ ← LinkFields.readAll format entries {}
    .error .text
  | .array items => linkOfItems format false items
  | .torn (.array items) _ => linkOfItems format true items
  | data => wrongKind data .socialLink

/-! ## Sidebar entries -/

/-- How deep arrays and tables may nest in an entry of the sidebar. A
JSON text may nest 127 deep, two of which are the root and the sidebar
itself; a TOML text has a limit of its own. -/
def entryDepth : Nat := 125

/-- **An entry of the sidebar.** The whole value is read before its
shape is looked at. -/
def entry (format : Format) (data : Data) : Decoded Entry :=
  if format = .json ∧ !data.readable entryDepth then .error .text
  else match Entry.ofData? data with
    | some entry => .ok entry
    | none => .error (.data .entryShape)

/-! ## The root -/

/-- **The fields of a configuration read so far**, and the keys that are
none of them. -/
structure RootFields where
  /-- The title. -/
  title? : Option String := none
  /-- The description. -/
  description? : Option (Option String) := none
  /-- The address. -/
  site? : Option (Option String) := none
  /-- The base path. -/
  base? : Option (Option String) := none
  /-- The packages. -/
  packages? : Option (List String) := none
  /-- The social links. -/
  social? : Option (List SocialLink) := none
  /-- The sidebar. -/
  sidebar? : Option (List Entry) := none
  /-- The unknown keys, in the order of the text. -/
  ignored : List String := []

/-- The names of the field `base`. -/
def baseNames : List String := ["base", "baseURL", "base_url"]

/-- Reads one field of a configuration. -/
def RootFields.read (format : Format) (fields : RootFields) (key : String) (value : Data) :
    Decoded RootFields :=
  if key = "title" then
    if fields.title?.isSome then .error (.data (.duplicateField "title"))
    else (string value).map fun v => { fields with title? := some v }
  else if key = "description" then
    if fields.description?.isSome then .error (.data (.duplicateField "description"))
    else (optionalString value).map fun v => { fields with description? := some v }
  else if key = "site" then
    if fields.site?.isSome then .error (.data (.duplicateField "site"))
    else (optionalString value).map fun v => { fields with site? := some v }
  else if baseNames.contains key then
    if fields.base?.isSome then .error (.data (.duplicateField "base"))
    else (optionalString value).map fun v => { fields with base? := some v }
  else if key = "packages" then
    if fields.packages?.isSome then .error (.data (.duplicateField "packages"))
    else (list string value).map fun v => { fields with packages? := some v }
  else if key = "social" then
    if fields.social?.isSome then .error (.data (.duplicateField "social"))
    else (list (socialLink format) value).map fun v => { fields with social? := some v }
  else if key = "sidebar" then
    if fields.sidebar?.isSome then .error (.data (.duplicateField "sidebar"))
    else (list (entry format) value).map fun v => { fields with sidebar? := some v }
  else if value.sound then .ok { fields with ignored := fields.ignored ++ [key] }
  else .error .text

/-- Reads fields of a configuration in order. -/
def RootFields.readAll (format : Format) : List (String × Data) → RootFields → Decoded RootFields
  | [], fields => .ok fields
  | (key, value) :: entries, fields => do
    RootFields.readAll format entries (← fields.read format key value)

/-- The keys of a configuration; `base` has three names. -/
def rootKeys : List String :=
  ["title", "description", "site"] ++ baseNames ++ ["packages", "social", "sidebar"]

/-- Reads fields of a configuration in order, and passes over every other
key without a word. -/
def RootFields.readKnown (format : Format) :
    List (String × Data) → RootFields → Decoded RootFields
  | [], fields => .ok fields
  | (key, value) :: entries, fields => do
    if rootKeys.contains key then
      RootFields.readKnown format entries (← fields.read format key value)
    else if value.sound then RootFields.readKnown format entries fields
    else .error .text

/-- The configuration whose fields have been read. -/
def RootFields.config (fields : RootFields) : Decoded SiteConfig := do
  let title ← require "title" fields.title?
  .ok {
    title
    description := fields.description?.getD none
    site := fields.site?.getD none
    base := fields.base?.getD none
    packages := fields.packages?.getD []
    social := fields.social?.getD []
    sidebar := fields.sidebar?.getD [] }

/-- **The configuration that the entries of a table describe**, and the
keys that are no part of it. -/
def rootTable (format : Format) (entries : List (String × Data)) :
    Decoded (SiteConfig × List String) := do
  let fields ← RootFields.readAll format entries {}
  .ok (← fields.config, fields.ignored)

/-- The fields of a configuration in the order in which an array lists
them. -/
def rootNames : List String :=
  ["title", "description", "site", "base", "packages", "social", "sidebar"]

/-- The configuration that an array stands for. Only the first element
has to be there. -/
def rootItems (format : Format) (torn : Bool) (items : List Data) : Decoded SiteConfig :=
  if items.isEmpty then tooShort torn 0 .config
  else do
    let fields ← RootFields.readAll format (rootNames.zip items) {}
    if torn || rootNames.length < items.length then .error .text else fields.config

/-- **The configuration that a tree of data describes.** -/
def root (format : Format) : Data → Decoded SiteConfig
  | .table entries => (rootTable format entries).map Prod.fst
  | .torn (.table entries) _ => do
    let _ ← RootFields.readAll format entries {}
    .error .text
  | .array items => rootItems format false items
  | .torn (.array items) _ => rootItems format true items
  | data => wrongKind data .config

end Decoded

namespace SiteConfig

/-- **Reads a configuration from TOML**, with the unknown keys of its
root. -/
def ofToml (text : String) : Decoded (SiteConfig × List String) :=
  match Toml.parse? text with
  | some entries => Decoded.rootTable .toml entries
  | none => .error .text

/-- **Reads a configuration from TOML**, whatever else its root holds. -/
def ofTomlKnown (text : String) : Decoded SiteConfig :=
  match Toml.parse? text with
  | some entries => do (← Decoded.RootFields.readKnown .toml entries {}).config
  | none => .error .text

/-- **Reads a configuration from JSON.** What follows the value is looked
at only once the configuration is complete. -/
def ofJson (text : String) : Decoded SiteConfig := do
  let (data, clean) := Json.parse text
  let config ← Decoded.root .json data
  if clean then .ok config else .error .text

end SiteConfig

end DocSite
