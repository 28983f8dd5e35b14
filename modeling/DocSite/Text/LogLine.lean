import DocSite.Text.Style

/-!
# Log lines

A log line names its topic between brackets, in bold and in a colour
that depends on the topic alone. It first clears what may be left on the
line of the terminal.
-/

namespace DocSite.Text

/-- The colour of a topic, whatever the case of its ASCII letters. -/
def topicColour (topic : String) : Colour :=
  let name := topic.map Char.toLower
  if name = "check" ∨ name = "emit" then .brightBlue
  else if name = "init" then .brightGreen
  else if name = "error" then .brightRed
  else .brightYellow

/-- **A log line**, with its end. -/
def logLine (topic message : String) : String :=
  clearLine ++ bold ((topicColour topic).paint ("[" ++ topic ++ "]")) ++ " " ++ message ++ "\n"

end DocSite.Text
