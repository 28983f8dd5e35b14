import DocSite.Data.Basic

/-!
# Tables under construction

A TOML text builds its tables from statements in any order, and which
statements may add to a table depends on how the table came about:

* a table with a **header** of its own is defined once; dotted keys in
  other tables cannot reach into it;
* a table **implied** by the header of a table inside it has no
  definition yet and may still get a header;
* a table made by **dotted** keys takes further dotted keys from the same
  section and can get no header;
* a table written between braces is a value and is never added to.

`Node` is a tree of data that remembers this, `insert?` adds a value
under dotted keys and `Section` is a header with what stands below it. A
header that finds its table implied moves the table to the end of the
table that holds it, as if the key had appeared only now.
-/

namespace DocSite.Toml

/-- **How a table came about.** -/
inductive Origin where
  /-- By a header of its own. -/
  | header
  /-- By the header of a table inside it. -/
  | implied
  /-- By dotted keys. -/
  | dotted
deriving DecidableEq

/-- **A tree of data under construction.** -/
inductive Node where
  /-- A value that is complete. -/
  | value (data : Data)
  /-- A table and how it came about. -/
  | table (origin : Origin) (entries : List (String × Node))
  /-- The tables of an array of tables, each with a header. -/
  | rows (tables : List (List (String × Node)))

/-- The entries of a table under construction. -/
abbrev Entries := List (String × Node)

namespace Node

mutual

/-- The finished tree. -/
def data : Node → Data
  | .value data => data
  | .table _ entries => .table (entriesData entries)
  | .rows tables => .array (rowsData tables)

/-- The finished entries of a table. -/
def entriesData : List (String × Node) → List (String × Data)
  | [] => []
  | (key, node) :: entries => (key, node.data) :: entriesData entries

/-- The finished tables of an array of tables. -/
def rowsData : List (List (String × Node)) → List Data
  | [] => []
  | entries :: tables => .table (entriesData entries) :: rowsData tables

end

end Node

namespace Entries

/-- **Changes the entry under a key**, or adds one at the end where there
is none. -/
def alter? (change : Option Node → Option Node) (key : String) : Entries → Option Entries
  | [] => (change none).map fun node => [(key, node)]
  | (k, node) :: entries =>
    if k = key then (change (some node)).map fun node => (k, node) :: entries
    else (alter? change key entries).map ((k, node) :: ·)

/-- Applies a change to the last element. -/
def changeLast? {α : Type} (change : α → Option α) : List α → Option (List α)
  | [] => none
  | [last] => (change last).map fun last => [last]
  | first :: rest => (changeLast? change rest).map (first :: ·)

/-- **Adds a value under dotted keys.** `here` says that the last key may
stand in this very table: always in the table of the section itself, and
further in only where dotted keys made the table. -/
def insert? (value : Data) : (here : Bool) → List String → Entries → Option Entries
  | _, [], _ => none
  | here, [key], entries =>
    if here then
      entries.alter? (fun
        | none => some (.value value)
        | some _ => none) key
    else none
  | _, key :: keys, entries =>
    entries.alter? (fun
      | none => (insert? value true keys []).map (.table .dotted)
      | some (.value _) => none
      | some (.rows tables) => (changeLast? (insert? value false keys) tables).map .rows
      | some (.table .header _) => none
      | some (.table .implied inner) => (insert? value false keys inner).map (.table .implied)
      | some (.table .dotted inner) => (insert? value true keys inner).map (.table .dotted)) key

/-- Adds pairs of dotted keys and values, one after the other. -/
def insertAll? : List (List String × Data) → Entries → Option Entries
  | [], entries => some entries
  | (keys, value) :: pairs, entries => do insertAll? pairs (← insert? value true keys entries)

/-- **Changes the table that header keys lead to**: tables are passed
whatever their origin, an array of tables leads into its last table, and
a table that does not exist yet is implied. -/
def descend? (change : Entries → Option Entries) : List String → Entries → Option Entries
  | [], entries => change entries
  | key :: keys, entries =>
    entries.alter? (fun
      | none => (descend? change keys []).map (.table .implied)
      | some (.value _) => none
      | some (.rows tables) => (changeLast? (descend? change keys) tables).map .rows
      | some (.table origin inner) => (descend? change keys inner).map (.table origin)) key

/-- The entries without the one under a key. -/
def without (key : String) (entries : Entries) : Entries :=
  entries.filter fun entry => entry.1 ≠ key

/-- Adds a table with a header. -/
def defineTable? (pairs : List (List String × Data)) (key : String) (entries : Entries) :
    Option Entries :=
  match entries.lookup key with
  | none => do
    let table ← insertAll? pairs []
    some (entries ++ [(key, .table .header table)])
  | some (.table .implied inner) => do
    let table ← insertAll? pairs inner
    some (entries.without key ++ [(key, .table .header table)])
  | some _ => none

/-- Adds a table to an array of tables. -/
def defineRow? (pairs : List (List String × Data)) (key : String) (entries : Entries) :
    Option Entries := do
  let row ← insertAll? pairs []
  entries.alter? (fun
    | none => some (.rows [row])
    | some (.rows tables) => some (.rows (tables ++ [row]))
    | some _ => none) key

end Entries

/-- **A header and the statements below it.** -/
structure Section where
  /-- Whether the header adds a table to an array of tables. -/
  row : Bool
  /-- The keys that lead to the table that holds the new one. -/
  parents : List String
  /-- The key of the new table. -/
  key : String
  /-- The statements, as dotted keys and values. -/
  pairs : List (List String × Data)

/-- Adds a section to the tables built so far. -/
def Section.addTo? (s : Section) (root : Entries) : Option Entries :=
  root.descend?
    (if s.row then Entries.defineRow? s.pairs s.key else Entries.defineTable? s.pairs s.key)
    s.parents

/-- **The tables that statements and sections build**, or `none` if one
of them may not add what it adds. -/
def assemble? (pairs : List (List String × Data)) (sections : List Section) : Option Entries := do
  sections.foldlM (fun root s => s.addTo? root) (← Entries.insertAll? pairs [])

end DocSite.Toml
