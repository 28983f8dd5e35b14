import DocSite.Data.Basic

/-!
# Documents to write

What an export writes is a tree of texts, flags, lists and records. It
has no numbers, no nulls and nothing unreadable, so both formats can
write all of it. `Doc.data` is the tree of data that a reader of either
format should get back.
-/

namespace DocSite

/-- **A document to write.** -/
inductive Doc where
  /-- A text. -/
  | text (value : String)
  /-- A truth value. -/
  | flag (value : Bool)
  /-- Documents in order. -/
  | list (items : List Doc)
  /-- Documents under names, in order. -/
  | record (fields : List (String × Doc))

namespace Doc

mutual

/-- The tree of data that the document describes. -/
def data : Doc → Data
  | .text value => .string value
  | .flag value => .boolean value
  | .list items => .array (listData items)
  | .record fields => .table (recordData fields)

/-- The data of every item. -/
def listData : List Doc → List Data
  | [] => []
  | item :: items => item.data :: listData items

/-- The data of every field. -/
def recordData : List (String × Doc) → List (String × Data)
  | [] => []
  | (name, field) :: fields => (name, field.data) :: recordData fields

end

end Doc

end DocSite
