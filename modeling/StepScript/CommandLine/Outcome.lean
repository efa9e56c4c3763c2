import StepScript.Bridge
import StepScript.CommandLine.Arguments
import StepScript.LanguageServer
import StepScript.Report

/-!
# Outcomes: what comes of a command

**Files.** Files are given as a function from their names to their contents, or to the reason why
they cannot be read; so what comes of a command is a function of its arguments and the files.

**The order.** The settings are read first and applied; then the payload files, each of which takes
the place of what the settings gave; then the script. The first fault counts.

**Servers.** The bridge and the language server go on to work with their input, so for them the
outcome is the state in which they begin.
-/

namespace StepScript.CommandLine

/-- The contents of a file, or the reason why it cannot be read. -/
abbrev Files := Text → Except Text Text

/-- Why a command fails. -/
inductive RunFailure where
  /-- The settings cannot be read or applied. -/
  | settings (failure : Failure)
  /-- A payload file is refused. -/
  | payloadFile (path : Text) (failure : Failure)
  /-- A payload file or a script cannot be read. -/
  | unreadable (path reason : Text)
  deriving DecidableEq, Repr

/-- The text of a failure. After settings that cannot be read the reason is given once more, as the
cause of the failure. -/
def RunFailure.message : RunFailure → Text
  | settings (.unreadable path reason) =>
    (Failure.unreadable path reason).message ++ ": ".toList ++ reason
  | settings failure => failure.message
  | payloadFile path failure => "in ".toList ++ path ++ ": ".toList ++ failure.message
  | unreadable path reason => "failed to read ".toList ++ path ++ ": ".toList ++ reason

/-- What comes of a command. -/
inductive Outcome where
  /-- The command is done, with an exit code and its output. -/
  | done (code : Nat) (output : Text)
  | bridge (bridge : Bridge)
  | languageServer (server : LanguageServer)

/-- The text of a report. -/
def Format.write (f : Format) (report : Report) : Text :=
  match f with
  | json => report.toValue.pretty ++ ['\n']
  | markdown => report.toMarkdown

/-- Reads a file. -/
def readFile (files : Files) (path : Text) : Except RunFailure Text :=
  (files path).mapError (.unreadable path)

/-- The settings in a file, or the default ones without a file. -/
def readSettings (files : Files) (path : Option Text) : Except RunFailure Settings :=
  match path with
  | none => .ok .default
  | some path =>
    match files path with
    | .error reason => .error (.settings (.unreadable path reason))
    | .ok contents => (readPayload .config Settings.decoder contents).mapError .settings

/-- Applies the payload in a file, if there is one. -/
def applyFile (files : Files) (path : Option Text)
    (change : Context → Text → Except Failure Context) (c : Context) : Except RunFailure Context :=
  match path with
  | none => .ok c
  | some path => do
    let contents ← readFile files path
    (change c contents).mapError (.payloadFile path)

namespace Request

/-- The format of the report. -/
def format (r : Request) : Format := ((r.value? .format).bind Format.ofName?).getD .json

/-- The file that the command is about. -/
def file (r : Request) : Text := (r.value? .operand).getD []

/-- The files that the command reads. -/
def paths (r : Request) : List Text :=
  ([.config, .keywords, .elementTable, .variableTable, .catalog, .operand] : List Parameter).filterMap
    r.value?

/-- The tables that the settings and the payload files give. -/
def context (r : Request) (files : Files) (settings : Settings) (steps : Option Text) :
    Except RunFailure Context := do
  let c ← (Context.ofSettings settings).mapError .settings
  let c ← applyFile files (r.value? .keywords) Context.setKeywords c
  let c ← applyFile files (r.value? .elementTable) (Context.setElements · · true) c
  let c ← applyFile files (r.value? .variableTable) (Context.setVariables · · true) c
  applyFile files steps (Context.setStepList · · true) c

/-- Carries out a command. -/
def run (r : Request) (files : Files) : Except RunFailure Outcome := do
  let settings ← readSettings files (r.value? .config)
  match r.command with
  | .tokenize =>
    let c ← r.context files settings none
    let script ← readFile files r.file
    return .done 0 (r.format.write (.tokens (c.tokenize script)))
  | .steps =>
    let c ← r.context files settings r.file
    return .done 0 (r.format.write (.steps c.catalog.listing))
  | .check =>
    let c ← r.context files settings (r.value? .catalog)
    let script ← readFile files r.file
    let problems := c.check script
    return .done (if problems = [] then 0 else 1) (r.format.write (.problems problems))
  | .host => return .bridge (← (Bridge.ofSettings settings).mapError .settings)
  | .lsp => return .languageServer (← (LanguageServer.ofSettings settings).mapError .settings)

end Request

end StepScript.CommandLine
