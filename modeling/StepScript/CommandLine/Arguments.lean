import StepScript.CommandLine.Parameter

/-!
# Arguments: how a command line is read

**One argument after the other.** An option is followed by its value, in the next argument or in
its own, after an equals sign or, for a letter, directly. After two hyphens by themselves every
argument is an operand. The first word before the command that is not an option or its value is the
command.

**When errors are found.** A value is looked at only when the next option or operand comes, or at
the end (`Taken.settle`); until then it waits. Of two faults the one that is found first counts, and
what stands after the command is read to its end before the last value in front of it is looked at.
-/

namespace StepScript.CommandLine

/-- Why a command line is not carried out. -/
inductive UsageError where
  /-- The help was asked for. -/
  | help
  /-- The version was asked for. -/
  | version
  /-- The help is shown because there are no arguments. -/
  | nothingGiven
  | missingCommand
  | unknownCommand
  /-- An argument that is neither an option nor wanted as an operand. -/
  | unknownArgument
  /-- An option without its value, or with one that it cannot have. -/
  | invalidValue
  /-- An option was given twice. -/
  | repeated
  /-- A value for an option that takes none. -/
  | valueNotTaken
  /-- A required parameter has no value. -/
  | missingRequired
  deriving DecidableEq, Repr

/-- The values read from a part of a command line. -/
structure Taken where
  values : List (Parameter × Text)
  /-- The parameter read last and its value, if that has come, while it has not been looked at. -/
  waiting : Option (Parameter × Option Text)
  deriving DecidableEq, Repr

namespace Taken

/-- Nothing read. -/
def nothing : Taken := ⟨[], none⟩

/-- The value of a parameter. -/
def value? (t : Taken) (p : Parameter) : Option Text := (t.values.find? (·.1 = p)).map Prod.snd

/-- Whether a parameter has a value, or may have one waiting. -/
def mentions (t : Taken) (p : Parameter) : Bool :=
  (t.value? p).isSome || t.waiting.any (·.1 = p)

/-- Whether an option waits for its value. -/
def wantsValue (t : Taken) : Bool := t.waiting.any (·.2.isNone)

/-- Gives a parameter its value. -/
def give (t : Taken) (p : Parameter) (value : Text) : Except UsageError Taken :=
  if (t.value? p).isSome then .error .repeated
  else if p.allows value then .ok { t with values := t.values ++ [(p, value)] }
  else .error .invalidValue

/-- Looks at the value that waits. -/
def settle (t : Taken) : Except UsageError Taken :=
  match t.waiting with
  | none => .ok t
  | some (_, none) => .error .invalidValue
  | some (p, some value) => give { t with waiting := none } p value

/-- Lets a parameter wait, after looking at what waited before. -/
def await (t : Taken) (p : Parameter) (value : Option Text) : Except UsageError Taken := do
  return { ← t.settle with waiting := some (p, value) }

/-- An option was read, perhaps with a value in the same argument. -/
def option (t : Taken) (p : Parameter) (attached : Option Text) : Except UsageError Taken :=
  match attached with
  | none => t.await p none
  | some value => do (← t.settle).give p value

/-- A flag was read that ends the reading. -/
def flag (t : Taken) (answer : UsageError) : Except UsageError Taken := do
  let _ ← t.settle
  .error answer

end Taken

/-- Cuts a text at its first equals sign. -/
def cutAtEquals : Text → Text × Option Text
  | [] => ([], none)
  | c :: rest =>
    if c = '=' then ([], some rest)
    else
      let (name, value) := cutAtEquals rest
      (c :: name, value)

/-- Reads an argument that begins with two hyphens, given without them. -/
def takeLong (f : Form) (t : Taken) (argument : Text) : Except UsageError Taken :=
  let (name, attached) := cutAtEquals argument
  let flag (answer : UsageError) : Except UsageError Taken :=
    if attached.isSome then .error .valueNotTaken else t.flag answer
  match f.longOption? name with
  | some p => t.option p attached
  | none =>
    if name = "help".toList then flag .help
    else if name = "version".toList ∧ f.beforeCommand then flag .version
    else .error .unknownArgument

/-- The value that follows the letter of an option in its argument. -/
def attachedToLetter (rest : Text) : Option Text :=
  match rest with
  | [] => none
  | '=' :: value => some value
  | value => some value

/-- Reads an argument that begins with one hyphen, given as its first letter and the rest. -/
def takeLetter (f : Form) (t : Taken) (letter : Char) (rest : Text) : Except UsageError Taken :=
  match f.letterOption? letter with
  | some p => t.option p (attachedToLetter rest)
  | none =>
    if letter = 'h' then t.flag .help
    else if letter = 'V' ∧ f.beforeCommand then t.flag .version
    else .error .unknownArgument

/-- Reads an argument that is no option. -/
def takeOperand (f : Form) (t : Taken) (argument : Text) (afterHyphens : Bool) :
    Except UsageError Taken :=
  if f.parameters.contains .operand && !t.mentions .operand then t.await .operand (some argument)
  else if f.beforeCommand && !(afterHyphens && isCommand argument) then .error .unknownCommand
  else .error .unknownArgument
where
  /-- Whether an argument names a command. -/
  isCommand (argument : Text) : Bool :=
    (CommandName.ofName? argument).isSome || argument = "help".toList

/-- Reads one argument. -/
def takeArgument (f : Form) (t : Taken) (argument : Text) : Except UsageError Taken :=
  match argument with
  | '-' :: '-' :: rest => takeLong f t rest
  | '-' :: letter :: rest => takeLetter f t letter rest
  | value =>
    match t.waiting with
    | some (p, none) => .ok { t with waiting := some (p, some value) }
    | _ => takeOperand f t value false

/-- Reads the operands after two hyphens. -/
def takeOperands (f : Form) (t : Taken) : List Text → Except UsageError Taken
  | [] => .ok t
  | argument :: rest => do takeOperands f (← takeOperand f t argument true) rest

/-- What the help command answers, given the arguments after it: the help of the program or of one
command. -/
def helpFor : List Text → UsageError
  | [] => .help
  | [command] => if takeOperand.isCommand command then .help else .unknownCommand
  | _ => .unknownCommand

/-- Reads the arguments of a part of a command line. In front of the command, reading ends with it,
and the command and the arguments after it are given too. -/
def takeArguments (f : Form) (t : Taken) :
    List Text → Except UsageError (Taken × Option (CommandName × List Text))
  | [] => .ok (t, none)
  | argument :: rest =>
    if f.beforeCommand && !t.wantsValue && argument = "help".toList then .error (helpFor rest)
    else
      match if f.beforeCommand && !t.wantsValue then CommandName.ofName? argument else none with
      | some command => .ok (t, some (command, rest))
      | none =>
        if argument = "--".toList then do return (← takeOperands f t rest, none)
        else do takeArguments f (← takeArgument f t argument) rest

/-- The values of the arguments after a command. -/
def takeCommand (command : CommandName) (arguments : List Text) : Except UsageError Taken := do
  let form := Form.ofCommand command
  let (taken, _) ← takeArguments form .nothing arguments
  let taken ← taken.settle
  if form.required.all fun p => (taken.value? p).isSome then return taken
  else .error .missingRequired

/-- A command, and the values before and after it. -/
structure Request where
  command : CommandName
  before : Taken
  after : Taken

/-- The value of a parameter: the one after the command counts before the one in front of it. -/
def Request.value? (r : Request) (p : Parameter) : Option Text :=
  (r.after.value? p).or (r.before.value? p)

/-- What a command line asks for. -/
def Request.read (arguments : List Text) : Except UsageError Request := do
  let (before, rest) ← takeArguments .program .nothing arguments
  match rest with
  | some (command, rest) =>
    let after ← takeCommand command rest
    return ⟨command, ← before.settle, after⟩
  | none =>
    let before ← before.settle
    .error (if before.values = [] then .nothingGiven else .missingCommand)

end StepScript.CommandLine
