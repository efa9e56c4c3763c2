import StepScript.CommandLine.Outcome
import StepScript.LanguageServer.Envelope

/-!
# The program

The outer layer: arguments and files are read and handed over, and what comes back is written. The
two servers are run in a loop that waits for input and for time alike; everything they do is done
by `Bridge` and `LanguageServer`.
-/

namespace StepScript.Program

/-! ## Texts and files -/

/-- Writes a text. -/
def put (stream : IO.FS.Stream) (t : Text) : IO Unit := do
  stream.putStr (String.ofList t)
  stream.flush

/-- Why a file cannot be read. -/
def reasonOf : IO.Error → Text
  | .noFileOrDirectory _ code details => withCode code details
  | .permissionDenied _ code details => withCode code details
  | .inappropriateType _ code details => withCode code details
  | .invalidArgument _ code details => withCode code details
  | other => (toString other).toList
where
  /-- A description, with a capital, and the number of the fault, which may come with its sign
  turned. -/
  withCode (code : UInt32) (details : String) : Text :=
    let number := if code.toNat < 0x80000000 then code.toNat else 0x100000000 - code.toNat
    details.toList.modifyHead Char.toUpper ++ " (os error ".toList ++ Text.ofNat number ++ [')']

/-- The contents of a file, or the reason why it cannot be read. -/
def contentsOf (path : Text) : IO (Except Text Text) := do
  try
    let bytes ← IO.FS.readBinFile (String.ofList path)
    match Utf8.decode bytes.toList with
    | .ok t => return .ok t
    | .error _ => return .error "stream did not contain valid UTF-8".toList
  catch e => return .error (reasonOf e)

/-- The files at the given paths. -/
def filesAt (paths : List Text) : IO CommandLine.Files := do
  let read ← paths.mapM fun path => return (path, ← contentsOf path)
  return fun path => ((read.find? (·.1 = path)).map Prod.snd).getD (.error "not read".toList)

/-! ## Waiting -/

/-- How long the loops sleep between two looks, in milliseconds. -/
def pause : UInt32 := 2

/-- Waits until a task has ended or time has passed that `tick` takes notice of. -/
partial def waitFor {α σ : Type} (task : Task (Except IO.Error α)) (state : σ) (since : Nat)
    (tick : Nat → σ → IO σ) : IO (α × σ × Nat) := do
  let now ← IO.monoMsNow
  let state ← tick (now - since) state
  if ← IO.hasFinished task then
    return (← IO.ofExcept task.get, state, now)
  else
    IO.sleep pause
    waitFor task state now tick

/-! ## The bridge -/

/-- Sends messages to the host. -/
def sendMessages (messages : List Message) : IO Unit := do
  put (← IO.getStdout) (messages.flatMap fun m => m.line ++ ['\n'])

/-- Reads the bytes of a line with its line feed; none at the end of the input. -/
partial def readLine (input : IO.FS.Stream) (taken : ByteArray) : IO ByteArray := do
  let bytes ← input.read 1
  let taken := taken ++ bytes
  if bytes.isEmpty || bytes.toList = [10] then return taken else readLine input taken

/-- Serves the host until its input ends. -/
partial def serveHost (b : Bridge) (since : Nat) : IO Bridge := do
  let input ← IO.getStdin
  let task ← IO.asTask (readLine input .empty) Task.Priority.dedicated
  let (bytes, b, now) ← waitFor task b since fun passed b => do
    let (messages, b) := b.advance passed
    sendMessages messages
    return b
  let (messages, b) := if bytes.isEmpty then b.finish else b.receive bytes.toList
  sendMessages messages
  if bytes.isEmpty ∨ b.stopped.isSome then return b else serveHost b now

/-! ## The language server -/

/-- Sends data to the client. -/
def sendValues (values : List Json.Value) : IO Unit := do
  let output ← IO.getStdout
  for v in values do
    let text := v.compact
    let length := String.ofList (Text.ofNat text.byteLength)
    put output (("Content-Length: " ++ length ++ "\r\n\r\n").toList ++ text)

/-- Reads the lines in front of a message; gives the length of the message, or none at the end of
the input. -/
partial def readHeader (input : IO.FS.Stream) (length : Nat) : IO (Option Nat) := do
  let line ← input.getLine
  if line.isEmpty then return none
  else
    let text := Text.dropTrailing (fun c => c = '\n' || c = '\r') line.toList
    if text = [] then return some length
    else
      let label := "content-length:".toList
      if label.isPrefixOf text.lower then
        let digits := (text.drop label.length).filter fun c => !isBlank c
        readHeader input ((String.ofList digits).toNat?.getD 0)
      else readHeader input length

/-- Reads so many bytes, or those that are left. -/
partial def readBytes (input : IO.FS.Stream) (count : Nat) (taken : ByteArray) : IO ByteArray := do
  if count = 0 then return taken
  else
    let bytes ← input.read count.toUSize
    if bytes.isEmpty then return taken
    else readBytes input (count - bytes.size) (taken ++ bytes)

/-- Reads a message of the client; none at the end of the input. -/
def readMessage (input : IO.FS.Stream) : IO (Option ByteArray) := do
  match ← readHeader input 0 with
  | none => return none
  | some length => return some (← readBytes input length .empty)

/-- Serves the client until it ends the service or its input ends. -/
partial def serveClient (s : LanguageServer) (nextId since : Nat) : IO Unit := do
  let input ← IO.getStdin
  let task ← IO.asTask (readMessage input) Task.Priority.dedicated
  let (message, s, now) ← waitFor task s since fun passed s => do
    let (messages, s) := s.advance passed
    sendValues (LanguageServer.messageValues nextId messages)
    return s
  match message with
  | none => return
  | some bytes =>
    match (Utf8.decode bytes.toList).toOption.bind Json.Value.parse? with
    | none =>
      sendValues [LanguageServer.unreadableValue]
      serveClient s nextId now
    | some v =>
      let envelope := LanguageServer.Envelope.ofValue v
      if envelope.isExit then return
      else
        let (values, s) := LanguageServer.exchange s nextId envelope
        sendValues values
        serveClient s (nextId + values.length) now

/-! ## The command line -/

/-- How the program is used. -/
def usage : String :=
  "Usage: stepscript [--format json|markdown] [--config FILE] COMMAND\n" ++
    "Commands:\n" ++
    "  tokenize FILE [-k KEYWORDS]\n" ++
    "  steps CATALOG [-k KEYWORDS] [-e ELEMENTS] [-v VARIABLES]\n" ++
    "  check FILE -c CATALOG [-k KEYWORDS]\n" ++
    "  host\n" ++
    "  lsp\n"

/-- What is said about a command line that is not carried out. -/
def complaint : CommandLine.UsageError → String
  | .help | .version | .nothingGiven => usage
  | .missingCommand => "error: a command is required\n"
  | .unknownCommand => "error: unrecognized command\n"
  | .unknownArgument => "error: unexpected argument\n"
  | .invalidValue => "error: missing or invalid value\n"
  | .repeated => "error: an option cannot be given more than once\n"
  | .valueNotTaken => "error: unexpected value\n"
  | .missingRequired => "error: a required argument is missing\n"

/-- Answers a command line that is not carried out. -/
def answerUsage (e : CommandLine.UsageError) : IO UInt32 := do
  match e with
  | .help => put (← IO.getStdout) usage.toList; return 0
  | .version => put (← IO.getStdout) "stepscript 0.1.0\n".toList; return 0
  | other => put (← IO.getStderr) (complaint other).toList; return 2

/-- Reports a failure. -/
def fail (reason : Text) : IO UInt32 := do
  put (← IO.getStderr) ("Error: ".toList ++ reason ++ ['\n'])
  return 1

/-- Finishes a command. -/
def finish : CommandLine.Outcome → IO UInt32
  | .done code output => do
    put (← IO.getStdout) output
    return code.toUInt32
  | .bridge b => do
    let b ← serveHost b (← IO.monoMsNow)
    match b.stopped with
    | some reason => fail reason
    | none => return 0
  | .languageServer s => do
    serveClient s 0 (← IO.monoMsNow)
    return 0

/-- Carries out a command line. -/
def run (arguments : List Text) : IO UInt32 := do
  match CommandLine.Request.read arguments with
  | .error e => answerUsage e
  | .ok request =>
    match request.run (← filesAt request.paths) with
    | .ok outcome => finish outcome
    | .error failure => fail failure.message

end StepScript.Program

/-- Runs the program. -/
def main (arguments : List String) : IO UInt32 :=
  StepScript.Program.run (arguments.map String.toList)
