/-!
# Places in a configuration

A complaint says where it belongs: `sidebar[1].items[0].slug`. A `Place`
is the name of a field of the root and the steps that lead down from it,
into a field or to an element of a list; its text is what the reader
sees.
-/

namespace DocSite

/-- **A step down in a configuration.** -/
inductive Place.Step where
  /-- Into a field. -/
  | key (name : String)
  /-- To an element of a list. -/
  | index (position : Nat)
deriving DecidableEq

/-- **A place in a configuration.** -/
structure Place where
  /-- Where the way begins. -/
  root : String
  /-- The steps from there, in order. -/
  steps : List Place.Step := []
deriving DecidableEq

namespace Place

/-- The place one step further down. -/
def down (place : Place) (step : Step) : Place :=
  { place with steps := place.steps ++ [step] }

/-- A field of the value at a place. -/
def key (place : Place) (name : String) : Place :=
  place.down (.key name)

/-- An element of the list at a place. -/
def index (place : Place) (position : Nat) : Place :=
  place.down (.index position)

/-- The text of a place extended by one step: a dot comes before the name
of a field, but not at the very beginning. -/
def Step.extend (text : String) : Step → String
  | .key name => if text = "" then name else text ++ "." ++ name
  | .index position => text ++ "[" ++ toString position ++ "]"

/-- **The text of a place.** -/
def text (place : Place) : String :=
  place.steps.foldl Step.extend place.root

@[simp] theorem text_root (root : String) : text ⟨root, []⟩ = root := rfl

/-- A step extends the text. -/
@[simp] theorem text_down (place : Place) (step : Step) :
    (place.down step).text = step.extend place.text := by
  simp [text, down]

end Place

end DocSite
