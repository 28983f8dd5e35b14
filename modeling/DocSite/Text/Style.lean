/-!
# Text for a terminal

Messages for a terminal carry colours and weights, each a pair of escape
sequences around a text: `ESC [`, a number, `m`. A colour is closed by
the number that restores the default colour; bold and dim are closed by
the number that resets everything, so a colour goes inside them.
-/

namespace DocSite.Text

/-- The escape sequence that selects a rendition. -/
def rendition (code : Nat) : String :=
  "\x1b[" ++ toString code ++ "m"

/-- The escape sequence that clears the rest of the line. -/
def clearLine : String := "\x1b[K"

/-- **The colours messages use.** -/
inductive Colour where
  /-- Errors. -/
  | red
  /-- Hints. -/
  | yellow
  /-- Places in a configuration. -/
  | cyan
  /-- Log lines of errors. -/
  | brightRed
  /-- Log lines of new files. -/
  | brightGreen
  /-- Log lines of everything else. -/
  | brightYellow
  /-- Log lines of results. -/
  | brightBlue
deriving DecidableEq

/-- The number of a colour's rendition. -/
def Colour.code : Colour → Nat
  | .red => 31
  | .yellow => 33
  | .cyan => 36
  | .brightRed => 91
  | .brightGreen => 92
  | .brightYellow => 93
  | .brightBlue => 94

/-- A text in a colour. -/
def Colour.paint (colour : Colour) (text : String) : String :=
  rendition colour.code ++ text ++ rendition 39

/-- A text in bold. -/
def bold (text : String) : String :=
  rendition 1 ++ text ++ rendition 0

/-- A text in a dim shade. -/
def dimmed (text : String) : String :=
  rendition 2 ++ text ++ rendition 0

end DocSite.Text
