import DocSite.Data.Basic
import DocSite.Number.Shortest
import DocSite.Site.Icon
import DocSite.Text.Shown

/-!
# What can be wrong with the data of a configuration

A well-formed file may still not describe a configuration: a value is of
the wrong kind, a key is missing, unknown or given twice. `Mismatch`
lists these causes, and `Mismatch.message` words them; the wording shows
the value that was found where it is a scalar.
-/

namespace DocSite

open Number (Binary64)

/-- The two formats a configuration is read from. -/
inductive Format where
  /-- TOML. -/
  | toml
  /-- JSON. -/
  | json
deriving DecidableEq

/-- **What stands in the place of something else.** -/
inductive Found where
  /-- An explicit null. -/
  | null
  /-- A truth value. -/
  | boolean (value : Bool)
  /-- An integer. -/
  | integer (value : Int)
  /-- A number with a fraction or an exponent. -/
  | float (value : Binary64)
  /-- A text. -/
  | string (value : String)
  /-- An array. -/
  | sequence
  /-- A table, or a date. -/
  | map

/-- **What should have stood there.** -/
inductive Expected where
  /-- A text. -/
  | string
  /-- An array. -/
  | sequence
  /-- Nothing but a null. -/
  | unit
  /-- A configuration. -/
  | config
  /-- A social link. -/
  | socialLink

/-- **What is wrong with the data of a configuration.** -/
inductive Mismatch where
  /-- A value of the wrong kind. -/
  | kind (found : Found) (expected : Expected)
  /-- A key that has to be there is not. -/
  | missingField (name : String)
  /-- A key, or two keys for one field, is there twice. -/
  | duplicateField (name : String)
  /-- A key that a social link does not have. -/
  | unknownField (name : String)
  /-- An icon the theme does not have. -/
  | unknownIcon (name : String)
  /-- An array with too few elements for what it stands for. -/
  | length (found : Nat) (expected : Expected)
  /-- A sidebar entry of no known shape. -/
  | entryShape
  /-- An icon that is neither a text nor a table. -/
  | iconKind
  /-- An icon written as a table with no key, or with several. -/
  | iconKeys (many : Bool)
  /-- An icon written as a table that has something under its key. -/
  | iconContent
  /-- An icon written as a table with a scalar under its key, and the
  kind of the scalar. -/
  | iconScalar (scalar : String)

namespace Found

/-- The kind of a value; a place without one has none. -/
def ofData? : Data → Option Found
  | .null => some .null
  | .boolean value => some (.boolean value)
  | .integer value => some (.integer value)
  | .float value => some (.float value)
  | .datetime => some .map
  | .string value => some (.string value)
  | .array _ => some .sequence
  | .table _ => some .map
  | .fault _ => none
  | .torn part _ => ofData? part

/-- A value in the words of a complaint. -/
def text : Found → String
  | null => "null"
  | boolean value => "boolean `" ++ (if value then "true" else "false") ++ "`"
  | integer value => "integer `" ++ toString value ++ "`"
  | float value => "floating point `" ++ value.text ++ "`"
  | string value => "string " ++ Text.quoted value
  | sequence => "sequence"
  | map => "map"

end Found

/-- An expectation in the words of a complaint. -/
def Expected.text : Expected → String
  | .string => "a string"
  | .sequence => "a sequence"
  | .unit => "unit"
  | .config => "struct SiteConfig"
  | .socialLink => "struct SocialLink"

/-- How many fields an expected record has. -/
def Expected.fieldCount : Expected → Nat
  | .config => 7
  | .socialLink => 3
  | _ => 0

/-- Names between backquotes, with commas between them. -/
def listNames (names : List String) : String :=
  ", ".intercalate (names.map fun name => "`" ++ name ++ "`")

/-- The fields of a social link, in the order in which they are asked
for. -/
def socialLinkFields : List String := ["icon", "label", "href"]

/-- **The wording of a mismatch.** -/
def Mismatch.message : Mismatch → String
  | .kind found expected => "invalid type: " ++ found.text ++ ", expected " ++ expected.text
  | .missingField name => "missing field `" ++ name ++ "`"
  | .duplicateField name => "duplicate field `" ++ name ++ "`"
  | .unknownField name =>
    "unknown field `" ++ name ++ "`, expected one of " ++ listNames socialLinkFields
  | .unknownIcon name =>
    "unknown variant `" ++ name ++ "`, expected one of " ++ listNames (Icon.all.map Icon.name)
  | .length found expected =>
    "invalid length " ++ toString found ++ ", expected " ++ expected.text ++ " with "
      ++ toString expected.fieldCount ++ " elements"
  | .entryShape => "data did not match any variant of untagged enum NavEntry"
  | .iconKind => "wanted string or table"
  | .iconKeys many =>
    "wanted exactly 1 element, " ++ (if many then "more than 1 element" else "found 0 elements")
  | .iconContent => "expected empty table"
  | .iconScalar scalar => "expected table, found " ++ scalar

/-- **Why a text gives no configuration**: it is not of its format, or
its data is not that of a configuration. -/
inductive Unfit where
  /-- The text is not of its format, as far as it was looked at. -/
  | text
  /-- The data is wrong. -/
  | data (mismatch : Mismatch)

end DocSite
