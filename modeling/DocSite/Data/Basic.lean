import DocSite.Number.Binary64

/-!
# Trees of data

A configuration is written in TOML or in JSON; both texts describe a
tree of scalars, arrays and tables. `Data` is that tree, and everything
after reading – which keys a configuration has, what may stand under
each – is said of it alone.

A TOML text is read as a whole or not at all, so its trees are plain. A
JSON text is read piece by piece while the configuration is assembled,
and what is wrong with the data is noticed before a fault further on in
the text. Two forms of data keep track of that: `fault` stands where no
value can be read, and `torn` around an array or table whose rest cannot
be read. A text that is only skipped is looked at less closely, so both
say whether skipping gets past the place: it does get past half of a
surrogate pair and past a number beyond all doubles, and past nothing
else.
-/

namespace DocSite

open Number (Binary64)

/-- **A tree of data.** -/
inductive Data where
  /-- The absence of a value, said explicitly. -/
  | null
  /-- A truth value. -/
  | boolean (value : Bool)
  /-- An integer. -/
  | integer (value : Int)
  /-- A number with a fraction or an exponent. -/
  | float (value : Binary64)
  /-- A date, a time of day or both. -/
  | datetime
  /-- A text. -/
  | string (value : String)
  /-- A sequence of values. -/
  | array (items : List Data)
  /-- Values under keys, in the order of the text. -/
  | table (entries : List (String × Data))
  /-- No value can be read here. -/
  | fault (passable : Bool)
  /-- An array or table of which no more than `part` can be read. -/
  | torn (part : Data) (passable : Bool)

namespace Data

mutual

/-- **Skipping gets past the tree.** -/
def sound : Data → Bool
  | .fault passable => passable
  | .torn _ passable => passable
  | .array items => soundItems items
  | .table entries => soundEntries entries
  | _ => true

/-- Skipping gets past every item. -/
def soundItems : List Data → Bool
  | [] => true
  | item :: items => item.sound && soundItems items

/-- Skipping gets past every value. -/
def soundEntries : List (String × Data) → Bool
  | [] => true
  | (_, value) :: entries => value.sound && soundEntries entries

end

mutual

/-- **The tree can be read to the end**, with arrays and tables nested no
deeper than `depth`. -/
def readable : (depth : Nat) → Data → Bool
  | _, .fault _ => false
  | _, .torn _ _ => false
  | 0, .array _ => false
  | 0, .table _ => false
  | depth + 1, .array items => readableItems depth items
  | depth + 1, .table entries => readableEntries depth entries
  | _, _ => true

/-- Every item can be read. -/
def readableItems : (depth : Nat) → List Data → Bool
  | _, [] => true
  | depth, item :: items => item.readable depth && readableItems depth items

/-- Every value can be read. -/
def readableEntries : (depth : Nat) → List (String × Data) → Bool
  | _, [] => true
  | depth, (_, value) :: entries => value.readable depth && readableEntries depth entries

end

end Data

end DocSite
