import DocSite.Files.Tree
import DocSite.Site.Mismatch
import DocSite.Site.Report

/-!
# Sessions

A command looks at a disk, may write to it, says things on the way and
either succeeds or fails. The disk is a parameter, `Disk`: the commands
do not know whether they work on a tree of files or on a machine. What
they say is kept in a `Transcript`, and whether details are shown is
decided when the transcript is, so it changes nothing else.
-/

namespace DocSite.Command

open Files (Kind Fault Workspace)

/-! ## Disks -/

/-- **A disk, as far as commands use one.** -/
class Disk (m : Type → Type) where
  /-- The directory one works in, unless it is gone. -/
  here : m (Option (List String))
  /-- What is found under a path. -/
  kind? : String → m (Option Kind)
  /-- Reads a text. -/
  read : String → m (Except Fault String)
  /-- Writes a text. -/
  write : String → String → m (Except Fault Unit)

/-- A tree of files is a disk. -/
instance : Disk (StateM Workspace) where
  here := fun w => (if w.tree.isDirectory w.here then some w.here else none, w)
  kind? path := fun w => (w.kind? path, w)
  read path := fun w => (w.read path, w)
  write path text := fun w =>
    match w.write path text with
    | .ok w' => (.ok (), w')
    | .error fault => (.error fault, w)

/-! ## Transcripts -/

/-- **Something said on the way.** -/
inductive Message where
  /-- A log line. -/
  | log (topic text : String)
  /-- A log line for those who want to know more. -/
  | detail (topic text : String)
  /-- Lines that have their form already. -/
  | plain (text : String)
deriving DecidableEq

/-- A message for a terminal. -/
def Message.shown (verbose : Bool) : Message → String
  | log topic text => Text.logLine topic text
  | detail topic text => if verbose then Text.logLine topic text else ""
  | plain text => text

/-- **What a command has said and written out so far.** -/
structure Transcript where
  /-- What it has said. -/
  messages : List Message := []
  /-- What it has written out. -/
  out : String := ""
deriving DecidableEq

/-- All messages for a terminal. -/
def Transcript.shown (verbose : Bool) (t : Transcript) : String :=
  String.join (t.messages.map (Message.shown verbose))

/-! ## Failures -/

/-- **Why a command fails.** -/
inductive Failure where
  /-- There is no configuration file of that name. -/
  | noConfig (name : String)
  /-- A configuration file cannot be read. -/
  | unreadable (path : String) (fault : Fault)
  /-- The text of a configuration file describes no configuration. -/
  | unfit (text : String) (why : Unfit)
  /-- There is no directory of content. -/
  | noContent (path : String)
  /-- The configuration has errors. -/
  | rejected (report : Report)
  /-- A file is there that may not be replaced. -/
  | present (path : String)
  /-- An export cannot be written. -/
  | unwritable (path : String) (fault : Fault)
  /-- A first configuration file cannot be written. -/
  | unwritableConfig (path : String) (fault : Fault)

namespace Failure

/-- **The wording of a failure.** -/
def message : Failure → String
  | noConfig name =>
    "Config file '" ++ name ++ "' not found. Run 'platforma-docs init' to create one."
  | unreadable path _ => "IO error when reading `" ++ path ++ "`"
  | unfit _ _ => "Config file parsing error"
  | noContent path => "Config validation error: content directory `" ++ path ++ "` not found"
  | rejected report => report.shown
  | present path => "'" ++ path ++ "' already exists, use --force to overwrite"
  | unwritable path _ => "Failed to write '" ++ path ++ "'"
  | unwritableConfig path _ => "Failed to write config file '" ++ path ++ "'"

/-- What is behind a failure. -/
inductive Cause where
  /-- Something with the disk. -/
  | disk (fault : Fault)
  /-- Something with the text of a configuration file. -/
  | text (text : String) (why : Unfit)

/-- The cause of a failure that has one. -/
def cause? : Failure → Option Cause
  | unreadable _ fault => some (.disk fault)
  | unfit text why => some (.text text why)
  | unwritable _ fault => some (.disk fault)
  | unwritableConfig _ fault => some (.disk fault)
  | _ => none

end Failure

/-! ## Sessions -/

/-- **A command at work on a disk.** -/
abbrev Session (m : Type → Type) := ExceptT Failure (StateT Transcript m)

namespace Session

variable {m : Type → Type} [Monad m]

/-- Asks the disk. -/
def ask {α : Type} (question : m α) : Session m α :=
  ExceptT.lift (StateT.lift question)

/-- Says something. -/
def say (message : Message) : Session m Unit :=
  modify fun t => { t with messages := t.messages ++ [message] }

/-- Writes something out. -/
def print (text : String) : Session m Unit :=
  modify fun t => { t with out := t.out ++ text }

/-- Fails. -/
def fail {α : Type} (failure : Failure) : Session m α :=
  throw failure

end Session

end DocSite.Command
