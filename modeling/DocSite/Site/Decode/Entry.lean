import DocSite.Data.Basic
import DocSite.Site.Entry

/-!
# Sidebar entries from data

An entry has no tag that says what it is. A text is a slug; a table is
told by the keys it has:

* `label`, `items` and possibly `collapsed`: a group;
* `label`, `autogenerate` and possibly `collapsed`: a listed directory;
* `label` and `link`: a link;
* `slug` and possibly `label`: a page.

No table fits two of the four. An entry may also be written as an array
of the same values in the same order, and then the first of the four
shapes that fits decides.

`Reading` holds everything a value can be read as. The readings of a
value come from the readings of its parts, so the shapes can be tried one
after the other without reading anything again.
-/

namespace DocSite

/-- **What one value can be read as.** -/
structure Reading where
  /-- A text. -/
  text? : Option String := none
  /-- The absence of a value. -/
  isNull : Bool := false
  /-- A truth value. -/
  flag? : Option Bool := none
  /-- An entry. -/
  node? : Option Entry := none
  /-- A list of entries. -/
  entries? : Option (List Entry) := none
  /-- A directory to list. -/
  directory? : Option String := none

namespace Reading

/-- The value as a text that may be absent. -/
def optionalText? (r : Reading) : Option (Option String) :=
  if r.isNull then some none else r.text?.map some

/-- The directory that one field, or an array of one element, names. -/
def directoryOfFields? : List (String × Reading) → Option String
  | [("directory", r)] => r.text?
  | _ => none

/-- The directory that an array of one element names. -/
def directoryOfItems? : List Reading → Option String
  | [r] => r.text?
  | _ => none

end Reading

namespace Entry

/-! ## The shapes of a table -/

/-- **The fields of a table**, each with what it can be read as. -/
abbrev Fields := List (String × Reading)

namespace Fields

/-- Whether every key is one of the given and none stands twice. -/
def only (allowed : List String) (fields : Fields) : Bool :=
  let keys := fields.map Prod.fst
  keys.all allowed.contains && decide keys.Nodup

/-- The truth value of the field `collapsed`, false if it is absent. -/
def collapsed? (fields : Fields) : Option Bool :=
  match fields.lookup "collapsed" with
  | none => some false
  | some r => r.flag?

/-- The group that a table describes. -/
def group? (fields : Fields) : Option Entry := do
  if !fields.only ["label", "items", "collapsed"] then none else
  let label ← (← fields.lookup "label").text?
  let items ← (← fields.lookup "items").entries?
  some (.group label items (← fields.collapsed?))

/-- The listed directory that a table describes. -/
def autogenerate? (fields : Fields) : Option Entry := do
  if !fields.only ["label", "autogenerate", "collapsed"] then none else
  let label ← (← fields.lookup "label").text?
  let directory ← (← fields.lookup "autogenerate").directory?
  some (.autogenerate label directory (← fields.collapsed?))

/-- The link that a table describes. -/
def link? (fields : Fields) : Option Entry := do
  if !fields.only ["label", "link"] then none else
  let label ← (← fields.lookup "label").text?
  some (.link label (← (← fields.lookup "link").text?))

/-- The page that a table describes. -/
def page? (fields : Fields) : Option Entry := do
  if !fields.only ["slug", "label"] then none else
  let address ← (← fields.lookup "slug").text?
  match fields.lookup "label" with
  | none => some (.page address none)
  | some r => r.optionalText?.map (.page address)

/-- **The entry that a table describes.** -/
def node? (fields : Fields) : Option Entry :=
  fields.group? <|> fields.autogenerate? <|> fields.link? <|> fields.page?

end Fields

/-! ## The shapes of an array -/

/-- The group that an array describes. -/
def groupOfItems? : List Reading → Option Entry
  | [label, items] => do some (.group (← label.text?) (← items.entries?) false)
  | [label, items, collapsed] => do
    some (.group (← label.text?) (← items.entries?) (← collapsed.flag?))
  | _ => none

/-- The listed directory that an array describes. -/
def autogenerateOfItems? : List Reading → Option Entry
  | [label, source] => do some (.autogenerate (← label.text?) (← source.directory?) false)
  | [label, source, collapsed] => do
    some (.autogenerate (← label.text?) (← source.directory?) (← collapsed.flag?))
  | _ => none

/-- The link that an array describes. -/
def linkOfItems? : List Reading → Option Entry
  | [label, target] => do some (.link (← label.text?) (← target.text?))
  | _ => none

/-- The page that an array describes. -/
def pageOfItems? : List Reading → Option Entry
  | [address] => do some (.page (← address.text?) none)
  | [address, label] => do some (.page (← address.text?) (← label.optionalText?))
  | _ => none

/-- **The entry that an array describes.** -/
def ofItems? (items : List Reading) : Option Entry :=
  groupOfItems? items <|> autogenerateOfItems? items <|> linkOfItems? items <|> pageOfItems? items

/-! ## Reading -/

/-- What an array can be read as, given what its items can. -/
def arrayReading (items : List Reading) : Reading where
  node? := ofItems? items
  entries? := items.mapM Reading.node?
  directory? := Reading.directoryOfItems? items

/-- What a table can be read as, given what its fields can. -/
def tableReading (fields : Fields) : Reading where
  node? := Fields.node? fields
  directory? := Reading.directoryOfFields? fields

mutual

/-- **What a value can be read as.** -/
def reading : Data → Reading
  | .null => { isNull := true }
  | .boolean value => { flag? := some value }
  | .string value => { text? := some value, node? := some (.slug value) }
  | .array items => arrayReading (itemReadings items)
  | .table entries => tableReading (fieldReadings entries)
  | _ => {}

/-- What the items of an array can be read as. -/
def itemReadings : List Data → List Reading
  | [] => []
  | item :: items => reading item :: itemReadings items

/-- What the fields of a table can be read as. -/
def fieldReadings : List (String × Data) → List (String × Reading)
  | [] => []
  | (key, value) :: entries => (key, reading value) :: fieldReadings entries

end

/-- **The entry that a value describes.** -/
def ofData? (data : Data) : Option Entry :=
  (reading data).node?

end Entry

end DocSite
