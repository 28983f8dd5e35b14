import DocSite.Export.Format

/-!
# The options of the command line

The program has three commands, and options of two ranges: global ones,
which may stand before or behind the command, and those of one command.
An option has a long name, most have a letter too, and some take a value.
This module says which options there are; how a line is read against them
is said in `DocSite.Command.Arguments`.
-/

namespace DocSite.Command

/-- **When output is coloured**, as far as one can ask for it. -/
inductive ColourChoice where
  /-- Where the output is a terminal. -/
  | auto
  /-- Always. -/
  | always
  /-- Never. -/
  | never
deriving DecidableEq

/-- The word for a choice. -/
def ColourChoice.word : ColourChoice → String
  | auto => "auto"
  | always => "always"
  | never => "never"

/-- The choice with a word. -/
def ColourChoice.ofWord? (word : String) : Option ColourChoice :=
  [auto, always, never].find? (·.word = word)

/-- The word for a format. -/
def formatWord : Export → String
  | .json => "json"
  | .toml => "toml"
  | .mjs => "mjs"

/-- The format with a word. -/
def formatOfWord? (word : String) : Option Export :=
  [Export.json, Export.toml, Export.mjs].find? (formatWord · = word)

/-- **The commands.** -/
inductive Name where
  /-- Writes a first configuration file. -/
  | init
  /-- Checks a configuration. -/
  | check
  /-- Exports a configuration. -/
  | emit
deriving DecidableEq

/-- The names of a command. -/
def Name.words : Name → List String
  | init => ["init", "i"]
  | check => ["check", "c"]
  | emit => ["emit", "e"]

/-- The command with a name. -/
def Name.ofWord? (word : String) : Option Name :=
  [init, check, emit].find? (·.words.contains word)

/-- **The options.** -/
inductive Opt where
  /-- When output is coloured. -/
  | colour
  /-- The configuration file. -/
  | config
  /-- Whether more is told. -/
  | verbose
  /-- Asks for help. -/
  | help
  /-- Asks for the version. -/
  | version
  /-- Whether nothing is written. -/
  | dry
  /-- Whether a file may be replaced. -/
  | force
  /-- The root of the content. -/
  | content
  /-- The format of an export. -/
  | format
  /-- The file an export is written to. -/
  | output
deriving DecidableEq

namespace Opt

/-- The long name of an option. -/
def long : Opt → String
  | colour => "color"
  | config => "config"
  | verbose => "verbose"
  | help => "help"
  | version => "version"
  | dry => "dry"
  | force => "force"
  | content => "content"
  | format => "format"
  | output => "output"

/-- The letter of an option. -/
def letter? : Opt → Option Char
  | config => some 'C'
  | verbose => some 'v'
  | help => some 'h'
  | version => some 'V'
  | force => some 'f'
  | format => some 'f'
  | output => some 'o'
  | _ => none

/-- An option that takes a value; the others are flags. -/
def takesValue : Opt → Bool
  | colour => true
  | config => true
  | content => true
  | format => true
  | output => true
  | _ => false

/-- Whether a value is one of the option: a word it knows, or a path,
which is never empty. -/
def accepts (opt : Opt) (value : String) : Bool :=
  match opt with
  | colour => (ColourChoice.ofWord? value).isSome
  | format => (formatOfWord? value).isSome
  | _ => value != ""

end Opt

/-- **Where an option stands**: before the command, or behind it. -/
inductive Level where
  /-- Before the command. -/
  | root
  /-- Behind the command. -/
  | behind (name : Name)
deriving DecidableEq

/-- The options that may stand anywhere. -/
def globalOptions : List Opt := [.colour, .config, .verbose, .help]

/-- The options of a command. -/
def Name.options : Name → List Opt
  | init => [.dry, .force]
  | check => [.content]
  | emit => [.format, .output]

/-- **The options of a level.** -/
def Level.options : Level → List Opt
  | root => globalOptions ++ [.version]
  | behind name => name.options ++ globalOptions

/-- The option of a level with a long name. -/
def Level.long? (level : Level) (name : String) : Option Opt :=
  level.options.find? (·.long = name)

/-- The option of a level with a letter. -/
def Level.letter? (level : Level) (letter : Char) : Option Opt :=
  level.options.find? (·.letter? = some letter)

end DocSite.Command
