import DocSite.Command.Run

/-!
# The program

The commands at work on the machine they run on. Nothing is decided
here: the machine is asked as any disk is, and the outcome of the run is
printed, with the fewest words where the words are those of others.
-/

namespace DocSite.Machine

open Files (Kind Fault)

/-- The fault behind an error of the machine. -/
def faultOf : IO.Error → Fault
  | .noFileOrDirectory _ _ _ => .missing
  | error => .other (toString error)

/-- What is found under a path. Whatever is there and is no directory is a
file, whether or not it can be read. -/
def kind? (path : String) : IO (Option Kind) := do
  match ← (IO.FS.realPath path).toBaseIO with
  | .ok place => pure (some (if ← place.isDir then .directory else .file))
  | .error _ => pure none

/-- Reads a text. -/
def read (path : String) : IO (Except Fault String) := do
  match ← (IO.FS.readBinFile path).toBaseIO with
  | .ok content =>
    match String.fromUTF8? content with
    | some text => pure (.ok text)
    | none => pure (.error .notText)
  | .error error =>
    if (← kind? path) = some .directory then pure (.error .isDirectory)
    else pure (.error (faultOf error))

/-- Writes a text. -/
def write (path text : String) : IO (Except Fault Unit) := do
  if (← kind? path) = some .directory then pure (.error .isDirectory)
  else
    match ← (IO.FS.writeFile path text).toBaseIO with
    | .ok () => pure (.ok ())
    | .error error => pure (.error (faultOf error))

/-- The directory the program is started in. -/
def here : IO (Option (List String)) := do
  match ← IO.currentDir.toBaseIO with
  | .ok directory => pure (some (Files.names (toString directory)))
  | .error _ => pure none

instance : Command.Disk IO where
  here := here
  kind? := kind?
  read := read
  write := write

end DocSite.Machine

/-- Runs the program on the command line it was started with. -/
def main (words : List String) : IO UInt32 := do
  let outcome ← DocSite.Command.run (m := IO) .plain words
  IO.print outcome.out
  IO.eprint outcome.err
  pure (UInt32.ofNat outcome.exit)
