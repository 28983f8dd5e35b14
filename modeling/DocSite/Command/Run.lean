import DocSite.Command.Arguments
import DocSite.Command.Check
import DocSite.Command.Load
import DocSite.Command.Wording
import DocSite.Command.Write

/-!
# Running the program

A run reads the command line, does what it asks for, and ends with an
exit code, an output and what it said. A run that fails writes nothing
out.

The choice of colours is read and has no effect.
-/

namespace DocSite.Command

variable {m : Type → Type} [Monad m] [Disk m]

/-- **What a run leaves behind**, the disk apart. -/
structure Outcome where
  /-- The exit code. -/
  exit : Nat
  /-- What was written out. -/
  out : String
  /-- What was said. -/
  err : String
deriving DecidableEq

/-- **Does what a command line asks for.** -/
def perform (arguments : Arguments) : Session m Unit :=
  match arguments.action with
  | .init dry force => init arguments.config dry force
  | .check content => do checkSite (← load arguments.config) content
  | .emit format output => do emit (← load arguments.config) format output

/-- The outcome of a command line that leads to no action. -/
def Stop.outcome (stop : Stop) (wording : Wording) (words : List String) : Outcome :=
  if stop.exitCode = 0 then ⟨0, stop.text wording words, ""⟩
  else ⟨stop.exitCode, "", stop.text wording words⟩

/-- The outcome of a session that has ended. -/
def Outcome.ofSession (wording : Wording) (verbose : Bool) :
    Except Failure Unit × Transcript → Outcome
  | (.ok (), t) => ⟨0, t.out, t.shown verbose⟩
  | (.error failure, t) => ⟨1, t.out, t.shown verbose ++ failure.shown wording⟩

/-- **Runs the program on a command line.** -/
def run (wording : Wording) (words : List String) : m Outcome :=
  match Arguments.ofWords words with
  | .error stop => pure (stop.outcome wording words)
  | .ok arguments => do
    pure (.ofSession wording arguments.verbose (← (perform arguments).run.run {}))

end DocSite.Command
