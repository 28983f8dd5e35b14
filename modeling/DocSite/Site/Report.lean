import DocSite.Site.Defect
import DocSite.Text.LogLine

/-!
# Reports

A report collects what a check of a configuration found: errors, with
hints, and warnings. Only errors make a configuration fail. Both are kept
in the order in which they were found.
-/

namespace DocSite

/-- **An error of a report.** -/
structure Report.Error where
  /-- Where it is. -/
  place : Place
  /-- What is wrong. -/
  message : String
  /-- What could be done about it. -/
  hint : Option String := none
deriving DecidableEq

/-- **A warning of a report.** -/
structure Report.Warning where
  /-- Where it is. -/
  place : Place
  /-- What is odd. -/
  message : String
deriving DecidableEq

/-- **What a check found.** -/
structure Report where
  /-- The errors. -/
  errors : List Report.Error := []
  /-- The warnings. -/
  warnings : List Report.Warning := []
deriving DecidableEq

namespace Report

/-- A report with one error more. -/
def error (report : Report) (e : Error) : Report :=
  { report with errors := report.errors ++ [e] }

/-- A report with one warning more. -/
def warn (report : Report) (w : Warning) : Report :=
  { report with warnings := report.warnings ++ [w] }

/-- A configuration passes with this report. -/
def passes (report : Report) : Bool :=
  report.errors.isEmpty

/-- A defect in words. -/
def ofDefect (found : Located Defect) : Error :=
  ⟨found.place, found.what.message, found.what.hint?⟩

/-- A caution in words. -/
def ofCaution (found : Located Caution) : Warning :=
  ⟨found.place, found.what.message⟩

/-- **The report of findings.** -/
def ofFindings (defects : List (Located Defect)) (cautions : List (Located Caution)) : Report :=
  ⟨defects.map ofDefect, cautions.map ofCaution⟩

/-! ## For a terminal -/

/-- The place of an error, between dim brackets. -/
def heading (place : Place) : String :=
  Text.dimmed "[" ++ Text.Colour.cyan.paint place.text ++ Text.dimmed "]"

/-- **An error for a terminal**, without a line end behind it. -/
def Error.shown (e : Error) : String :=
  heading e.place ++ "\n" ++ Text.Colour.red.paint "→" ++ " " ++ e.message
    ++ match e.hint with
      | some hint => "\n  " ++ Text.Colour.yellow.paint "hint:" ++ " " ++ hint
      | none => ""

/-- The count of several errors. -/
def count (n : Nat) : String :=
  "\n\n" ++ Text.dimmed "found" ++ " " ++ Text.bold (Text.Colour.red.paint (toString n)) ++ " "
    ++ Text.dimmed "errors"

/-- **The errors of a report for a terminal**, without a line end behind
them. -/
def shown (report : Report) : String :=
  Text.bold (Text.Colour.red.paint "config validation failed:") ++ "\n\n"
    ++ "\n\n".intercalate (report.errors.map Error.shown)
    ++ (if 1 < report.errors.length then count report.errors.length else "")

/-- A line for one warning. -/
def Warning.line (w : Warning) : String :=
  "- [" ++ w.place.text ++ "] " ++ w.message ++ "\n"

/-- **The warnings of a report for a terminal**: nothing, or a log line
and a line for each. -/
def warningText (report : Report) : String :=
  if report.warnings.isEmpty then ""
  else Text.logLine "warning" ("config has " ++ toString report.warnings.length ++ " warning(s):")
    ++ String.join (report.warnings.map Warning.line)

end Report

/-- A place for a terminal. -/
def Place.shown (place : Place) : String :=
  Text.Colour.brightBlue.paint ("`" ++ place.text ++ "`")

end DocSite
