import StepScript.Text.Basic

/-!
# Parameters: what may stand on a command line

**Commands.** The program carries out one command. Each command has options, which take a value
each, and may have one operand, the file that it is about. Two options belong to the program and
may be given before the command as well as after it.

**Names.** An option has a long name, after two hyphens, and some have a letter, after one.
-/

namespace StepScript.CommandLine

/-- What the program can do. -/
inductive CommandName where
  /-- The tokens of a script. -/
  | tokenize
  /-- The listing of a step list. -/
  | steps
  /-- The lines of a script whose step is unknown. -/
  | check
  /-- The bridge to a host. -/
  | host
  /-- The language server. -/
  | lsp
  deriving DecidableEq, Repr

namespace CommandName

/-- All commands. -/
def all : List CommandName := [tokenize, steps, check, host, lsp]

/-- The name of a command. -/
def name : CommandName → String
  | tokenize => "tokenize"
  | steps => "steps"
  | check => "check"
  | host => "host"
  | lsp => "lsp"

/-- The command with a name. -/
def ofName? (t : Text) : Option CommandName := all.find? (·.name.toList = t)

end CommandName

/-- What has a value on a command line. -/
inductive Parameter where
  /-- How reports are written. -/
  | format
  /-- The file of settings. -/
  | config
  | keywords
  | elementTable
  | variableTable
  /-- The step list, where it is an option. -/
  | catalog
  /-- The file that a command is about. -/
  | operand
  deriving DecidableEq, Repr

namespace Parameter

/-- The long name of an option. -/
def long? : Parameter → Option String
  | format => some "format"
  | config => some "config"
  | keywords => some "keywords"
  | elementTable => some "elements"
  | variableTable => some "variables"
  | catalog => some "catalog"
  | operand => none

/-- The letter of an option. -/
def letter? : Parameter → Option Char
  | keywords => some 'k'
  | elementTable => some 'e'
  | variableTable => some 'v'
  | catalog => some 'c'
  | format | config | operand => none

end Parameter

/-- How reports are written. -/
inductive Format where
  | json
  | markdown
  deriving DecidableEq, Repr

/-- The format with a name. -/
def Format.ofName? (t : Text) : Option Format :=
  if t = "json".toList then some .json
  else if t = "markdown".toList then some .markdown
  else none

/-- Whether a parameter can have a value: a format must be known, and a file must have a name. -/
def Parameter.allows (p : Parameter) (value : Text) : Bool :=
  match p with
  | format => (Format.ofName? value).isSome
  | _ => value ≠ []

/-- What may stand in a part of a command line: before the command, or after it. -/
structure Form where
  /-- The options and the operand. -/
  parameters : List Parameter
  /-- The parameters that must have a value. -/
  required : List Parameter
  /-- Whether this is the part before the command. -/
  beforeCommand : Bool
  deriving DecidableEq, Repr

namespace Form

/-- The part before the command. -/
def program : Form := ⟨[.format, .config], [], true⟩

/-- The part after a command. -/
def ofCommand : CommandName → Form
  | .tokenize => ⟨[.format, .config, .keywords, .operand], [.operand], false⟩
  | .steps => ⟨[.format, .config, .keywords, .elementTable, .variableTable, .operand], [.operand], false⟩
  | .check => ⟨[.format, .config, .catalog, .keywords, .operand], [.operand, .catalog], false⟩
  | .host | .lsp => ⟨[.format, .config], [], false⟩

/-- The option with a long name. -/
def longOption? (f : Form) (name : Text) : Option Parameter :=
  f.parameters.find? fun p => p.long?.any (·.toList = name)

/-- The option with a letter. -/
def letterOption? (f : Form) (letter : Char) : Option Parameter :=
  f.parameters.find? fun p => p.letter? = some letter

end Form

end StepScript.CommandLine
