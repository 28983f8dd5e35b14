import DocSite.Command.Arguments
import DocSite.Command.Session
import DocSite.Site.Starter
import DocSite.Text.Segments

/-!
# The words of others

Most of what a run says is in its own words. Two things are said by the
readers it relies on: what is wrong with the text of a configuration file,
and what there is to say about a command line that leads to no action.
Their words are a parameter, `Wording`; nothing that a run does depends on
them.

Two things they say are known. Data that does not fit is told by
`Mismatch.message`, between lines of the reader's about the place, and the
version is a line with the name of the program. How a complaint is put is
known too: it is the cause of a failure, and a cause stands below the
failure, four blanks to the right.
-/

namespace DocSite.Command

/-- **The words of the readers that a run relies on.** -/
structure Wording where
  /-- The lines that show where something is wrong in a text. -/
  excerpt : String → Unfit → String
  /-- The line that names the keys above a place that is not shown. -/
  trail : String → Unfit → String
  /-- What is wrong with a text that is not of its format. -/
  malformed : String → String
  /-- The help for a command line, or what is wrong with it. -/
  usage : List String → Stop → String

namespace Wording

/-- What is wrong with a text. -/
def message (wording : Wording) (text : String) : Unfit → String
  | .text => wording.malformed text
  | .data mismatch => mismatch.message

/-- **A complaint about a text**: where something is wrong, and what. -/
def complaint (wording : Wording) (text : String) (why : Unfit) : String :=
  wording.excerpt text why ++ wording.message text why ++ "\n" ++ wording.trail text why

/-- **As few words as possible**, for where those of the readers are not at
hand. -/
def plain : Wording where
  excerpt _ _ := ""
  trail _ _ := ""
  malformed _ := "no TOML document"
  usage _ _ := "Usage: " ++ programName ++ " [OPTIONS] <COMMAND>\n"

end Wording

/-- What is said about a command line that leads to no action. -/
def Stop.text (stop : Stop) (wording : Wording) (words : List String) : String :=
  match stop with
  | version => programName ++ " " ++ programVersion ++ "\n"
  | _ => wording.usage words stop

/-- A text with four blanks in front of each line, an empty one at its end
included. -/
def shifted (text : String) : String :=
  String.ofList (Text.join '\n'
    ((Text.split (· == '\n') text.toList).map fun line => "    ".toList ++ line))

namespace Failure

/-- What a cause says. -/
def Cause.shown (wording : Wording) : Cause → String
  | disk fault => fault.text
  | text content why => wording.complaint content why

/-- **A failure for a terminal**, with its cause below it. -/
def shown (wording : Wording) (failure : Failure) : String :=
  "Error: " ++ failure.message
    ++ (match failure.cause? with
      | some cause => "\n\nCaused by:\n" ++ shifted (cause.shown wording)
      | none => "")
    ++ "\n"

end Failure

end DocSite.Command
