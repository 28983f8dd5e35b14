import DocSite.Command.Grammar
import DocSite.Site.Config

/-!
# Reading a command line

A command line is read word by word, first before the command and then
behind it. An option that takes a value and has none yet waits for the
next word; what it then has is looked at only when the next option comes
or the words end, so a word that means nothing is complained about before
a value that means nothing.

Reading behind the command comes before the last look at what waits
before it.
-/

namespace DocSite.Command

/-- **What one can ask the program to do.** -/
inductive Action where
  /-- Write a first configuration file. -/
  | init (dry force : Bool)
  /-- Check a configuration, and the content it refers to. -/
  | check (content : Option String)
  /-- Export a configuration. -/
  | emit (format : Export) (output : Option String)
deriving DecidableEq

/-- **A command line that has been read.** -/
structure Arguments where
  /-- When output is coloured. -/
  colour : ColourChoice
  /-- The configuration file. -/
  config : String
  /-- Whether more is told. -/
  verbose : Bool
  /-- What to do. -/
  action : Action
deriving DecidableEq

/-- **Why a command line leads to no action**: it asks for a text instead,
or it cannot be read. -/
inductive Stop where
  /-- It asks for help. -/
  | help
  /-- It asks for the version. -/
  | version
  /-- It says nothing. -/
  | nothing
  /-- It has options and no command. -/
  | noCommand
  /-- It has a command there is not. -/
  | unknownCommand
  /-- It has an option there is not, or a word too many. -/
  | unknownArgument
  /-- An option stands twice. -/
  | repeated
  /-- An option has no value, or one that is none of its. -/
  | value
  /-- A flag has a value. -/
  | flagValue
deriving DecidableEq

/-- The exit code of the program. -/
def Stop.exitCode : Stop → Nat
  | help => 0
  | version => 0
  | _ => 2

/-- **The options read so far** at a level. -/
structure Progress where
  /-- The options that count, with their values; a flag has the value
  `""`. -/
  given : List (Opt × String) := []
  /-- The option that has been met last, if it takes a value, with the
  value if it has one already. -/
  waiting : Option (Opt × Option String) := none
deriving DecidableEq

namespace Progress

/-- Takes down an option that stands for itself or has its value. -/
def record (p : Progress) (opt : Opt) (value : String) : Except Stop Progress :=
  if (p.given.lookup opt).isSome then .error .repeated
  else if opt.takesValue && !opt.accepts value then .error .value
  else if opt = .help then .error .help
  else if opt = .version then .error .version
  else .ok { p with given := p.given ++ [(opt, value)] }

/-- Takes down the option that waits. -/
def settle (p : Progress) : Except Stop Progress :=
  match p.waiting with
  | none => .ok p
  | some (_, none) => .error .value
  | some (opt, some value) => { p with waiting := none : Progress }.record opt value

/-- An option with its value, or a flag. -/
def add (p : Progress) (opt : Opt) (value : String) : Except Stop Progress := do
  (← p.settle).record opt value

/-- An option whose value is the next word. -/
def await (p : Progress) (opt : Opt) : Except Stop Progress := do
  .ok { (← p.settle) with waiting := some (opt, none) }

end Progress

/-- **A word of a command line.** -/
inductive Word where
  /-- Two hyphens: no option follows. -/
  | ending
  /-- A long name, and what follows its equals sign. -/
  | long (name : String) (value : Option String)
  /-- Letters behind one hyphen. -/
  | letters (letters : List Char)
  /-- Anything else. -/
  | plain (text : String)
deriving DecidableEq

/-- Cuts at the first equals sign. -/
def cutAtEquals (text : List Char) : List Char × Option (List Char) :=
  match text.dropWhile (· != '=') with
  | [] => (text, none)
  | _ :: value => (text.takeWhile (· != '='), some value)

/-- What a word is. A single hyphen is a plain word. -/
def Word.ofText (text : String) : Word :=
  match text.toList with
  | ['-', '-'] => .ending
  | '-' :: '-' :: rest =>
    .long (String.ofList (cutAtEquals rest).1) ((cutAtEquals rest).2.map String.ofList)
  | ['-'] => .plain text
  | '-' :: rest => .letters rest
  | _ => .plain text

/-- An option by its long name. -/
def readLong (level : Level) (p : Progress) (name : String) (value : Option String) :
    Except Stop Progress :=
  match level.long? name with
  | none => .error .unknownArgument
  | some opt =>
    match opt.takesValue, value with
    | true, some v => p.add opt v
    | true, none => p.await opt
    | false, some _ => .error .flagValue
    | false, none => p.add opt ""

/-- Options by their letters. What stands behind the letter of an option
that takes a value is the value, with or without an equals sign. -/
def readLetters (level : Level) : Progress → List Char → Except Stop Progress
  | p, [] => .ok p
  | p, letter :: rest =>
    match level.letter? letter with
    | none => .error .unknownArgument
    | some opt =>
      if opt.takesValue then
        match rest with
        | [] => p.await opt
        | '=' :: value => p.add opt (String.ofList value)
        | value => p.add opt (String.ofList value)
      else do readLetters level (← p.add opt "") rest

/-- What a plain word is at a level that has no place for it. -/
def Level.surplus : Level → Stop
  | root => .unknownCommand
  | behind _ => .unknownArgument

/-- Behind two hyphens every word is one too many; a command there is
none. -/
def readRest (level : Level) (p : Progress) : List String → Except Stop Progress
  | [] => .ok p
  | text :: _ =>
    if (Name.ofWord? text).isSome || text = "help" then .error .unknownArgument
    else .error level.surplus

/-- Help for a command: each of the words has to be one. -/
def readHelp : List String → Stop
  | [] => .help
  | text :: rest =>
    if (Name.ofWord? text).isSome || text = "help" then
      if rest.isEmpty then .help else .unknownCommand
    else .unknownCommand

/-- The words before the command, or all of them behind it: what has been
read, and the command with the words behind it. -/
def readLevel (level : Level) : Progress → List String →
    Except Stop (Progress × Option (Name × List String))
  | p, [] => .ok (p, none)
  | p, text :: rest =>
    let free := match p.waiting with
      | some (_, none) => false
      | _ => true
    match if free && level = .root then some text else none with
    | some "help" => .error (readHelp rest)
    | word? =>
      match word?.bind Name.ofWord? with
      | some name => .ok (p, some (name, rest))
      | none =>
        match Word.ofText text with
        | .ending => (readRest level p rest).map fun p => (p, none)
        | .long name value => do readLevel level (← readLong level p name value) rest
        | .letters letters => do readLevel level (← readLetters level p letters) rest
        | .plain text =>
          match p.waiting with
          | some (opt, none) =>
            readLevel level { p with waiting := some (opt, some text) } rest
          | _ => .error level.surplus

/-- What a command is asked to do. -/
def actionOf (name : Name) (given : List (Opt × String)) : Action :=
  match name with
  | .init => .init (given.lookup .dry).isSome (given.lookup .force).isSome
  | .check => .check (given.lookup .content)
  | .emit => .emit (((given.lookup .format).bind formatOfWord?).getD .json) (given.lookup .output)

/-- The command line with the given options. What stands behind the
command counts before what stands before it. -/
def Arguments.ofGiven (name : Name) (before behind : List (Opt × String)) : Arguments :=
  let given := behind ++ before
  { colour := ((given.lookup .colour).bind ColourChoice.ofWord?).getD .auto
    config := (given.lookup .config).getD configFileName
    verbose := (given.lookup .verbose).isSome
    action := actionOf name behind }

/-- **Reads a command line.** -/
def Arguments.ofWords (words : List String) : Except Stop Arguments := do
  match ← readLevel .root {} words with
  | (p, none) =>
    let p ← p.settle
    .error (if p.given.isEmpty then .nothing else .noCommand)
  | (before, some (name, rest)) =>
    let (behind, _) ← readLevel (.behind name) {} rest
    let behind ← behind.settle
    let before ← before.settle
    .ok (.ofGiven name before.given behind.given)

end DocSite.Command
