import StepScript.LanguageServer.Completion
import StepScript.LanguageServer.Diagnostic
import StepScript.LanguageServer.Hover
import StepScript.LanguageServer.Message
import StepScript.LanguageServer.SemanticTokens
import StepScript.LanguageServer.Timer

/-!
# The language server

**Documents.** The server keeps the text and the version of each document that a client has opened,
and one set of tables for all of them. It answers calls about a document from its present text.

**Diagnostics.** A document is checked when it is opened. After a change it is checked once it has
rested for `delay` milliseconds: a change stops the timer of the document and starts another one,
and when a timer goes off the document is checked as it then is (`LanguageServer.fire?`). Closing a
document stops its timer and withdraws its diagnostics. When the tables change, all documents are
checked, and the client is asked to colour them anew.

**Phases.** Before a client has initialized the server, and after it has shut it down, calls are
refused and notices passed over.
-/

namespace StepScript

open LanguageServer

/-- The text of a document that a client has opened, and its version. -/
structure OpenDocument where
  version : Int
  text : Text
  deriving DecidableEq, Repr

/-- Whether a server takes part. -/
inductive Phase where
  | uninitialized
  | running
  | shutDown
  deriving DecidableEq, Repr

/-- A server and the documents of its client. -/
structure LanguageServer where
  context : Context
  /-- How long a document rests before it is checked, in milliseconds. -/
  delay : Nat
  phase : Phase
  /-- The present time in milliseconds. -/
  now : Nat
  /-- The open documents by name. -/
  documents : Table OpenDocument
  /-- What waits for documents to rest. -/
  timers : Timers

/-- What a server sends of its own accord. -/
inductive ServerMessage where
  | publish (publication : Publication)
  /-- The client is asked to colour its documents anew. -/
  | refreshTokens
  deriving DecidableEq, Repr

/-- Why a call is refused in a phase, where it is said whether the call begins the service: that is
done once, and before anything else. -/
def Phase.refusal? : Phase → Bool → Option Refused
  | .uninitialized, true => none
  | .uninitialized, false => some .notInitialized
  | .running, true => some .invalidRequest
  | .running, false => none
  | .shutDown, _ => some .invalidRequest

namespace LanguageServer

/-- A server before it is initialized. -/
def ofContext (context : Context) (delay : Nat) : LanguageServer :=
  ⟨context, delay, .uninitialized, 0, .empty, .none⟩

/-- The server that settings describe. -/
def ofSettings (s : Settings) : Except Failure LanguageServer := do
  return ofContext (← Context.ofSettings s) s.diagnosticsDelay

/-! ## Diagnostics -/

/-- The diagnostics of a document as they are now. -/
def publication (s : LanguageServer) (uri : Text) (document : OpenDocument) : ServerMessage :=
  .publish ⟨uri, document.version, diagnostics s.context document.text⟩

/-- The diagnostics of all documents. -/
def publications (s : LanguageServer) : List ServerMessage :=
  s.documents.entries.map fun e => s.publication e.1 e.2

/-- What a timer that goes off leads to: its document is checked, if it is still open. -/
def fire? (s : LanguageServer) (t : Timer) : Option ServerMessage :=
  (s.documents.find? t.uri).map (s.publication t.uri)

/-- Moves time on. The timers that are over go off. -/
def advance (s : LanguageServer) (milliseconds : Nat) : List ServerMessage × LanguageServer :=
  let now := s.now + milliseconds
  ((s.timers.due now).filterMap s.fire?, { s with now, timers := s.timers.left now })

/-- The time until the next timer goes off. -/
def untilNext? (s : LanguageServer) : Option Nat := s.timers.next?.map (· - s.now)

/-! ## Notices -/

/-- Takes a notice. -/
def takeNotice (s : LanguageServer) : Notice → List ServerMessage × LanguageServer
  | .opened uri version text =>
    let document : OpenDocument := ⟨version, text⟩
    ([s.publication uri document], { s with documents := s.documents.insert uri document })
  | .changed uri version texts =>
    match texts.getLast? with
    | none => ([], s)
    | some text =>
      ([], { s with
        documents := s.documents.insert uri ⟨version, text⟩
        timers := s.timers.restart uri (s.now + s.delay) })
  | .closed uri =>
    ([.publish ⟨uri, none, []⟩],
      { s with documents := s.documents.erase uri, timers := s.timers.stop uri })

/-- Takes a notice, if the server takes part. -/
def notice (s : LanguageServer) (n : Notice) : List ServerMessage × LanguageServer :=
  if s.phase = .running then s.takeNotice n else ([], s)

/-! ## Commands -/

/-- The commands that change the tables, with their payload and whether they replace. -/
def commands : List (String × (Context → Text → Bool → Except Failure Context)) :=
  [("gherkin.setKeywords", fun c payload _ => c.setKeywords payload),
    ("gherkin.setElements", Context.setElements),
    ("gherkin.setVariables", Context.setVariables),
    ("gherkin.setStepList", Context.setStepList),
    ("gherkin.setSyntaxMessage", fun c message _ => .ok (c.setSyntaxMessage message))]

/-- The tables after a command. -/
def runCommand (c : Context) (command : Text) (arguments : List Json.Value) :
    Except Refused Context :=
  match commands.find? (·.1.toList = command) with
  | none => .error (.invalidParams ("unknown command: ".toList ++ command))
  | some (_, change) =>
    match arguments with
    | [] => .error (.invalidParams "missing payload argument".toList)
    | payload :: rest =>
      let clear := (rest.head?.bind Json.Value.bool?).getD false
      match change c payload.asText clear with
      | .ok c => .ok c
      | .error failure => .error (.invalidParams failure.message)

/-! ## Calls -/

/-- What the server can do, as data. -/
def capabilities : Json.Value :=
  let strings (list : List String) : Json.Value := .array (list.map Json.Value.ofString)
  .record [
    ("textDocumentSync", .ofNat 1),
    ("hoverProvider", .bool true),
    ("completionProvider", .record [("triggerCharacters", strings [" "])]),
    ("semanticTokensProvider", .record [
      ("legend", .record [("tokenTypes", strings tokenTypes),
        ("tokenModifiers", strings tokenModifiers)]),
      ("full", .bool true)]),
    ("executeCommandProvider", .record [("commands", strings (commands.map Prod.fst))])]

/-- The server with the tables of the client's settings, if it sends any. -/
def configure (s : LanguageServer) (options : Option Json.Value) : Except Failure LanguageServer :=
  match options with
  | none => .ok s
  | some options =>
    match Settings.decoder Json.nestingLimit options.toTree with
    | none => .error (.malformed .config)
    | some settings => do
      return { s with
        context := ← Context.ofSettings settings
        delay := settings.diagnosticsDelay }

/-- The text of a document. -/
def text? (s : LanguageServer) (uri : Text) : Option Text :=
  (s.documents.find? uri).map OpenDocument.text

/-- The answer about a document, or null if it is not open or there is nothing to tell. -/
def about (s : LanguageServer) (uri : Text) (answer : Text → Option Json.Value) : Json.Value :=
  .orNull ((s.text? uri).bind answer)

/-- What comes of a call: its answer, what is sent beside it, and the server after it. -/
abbrev Answered := Except Refused Json.Value × List ServerMessage × LanguageServer

/-- Initializes the server. -/
def setUp (s : LanguageServer) (options : Option Json.Value) : Answered :=
  match s.configure options with
  | .error failure => (.error (.invalidParams failure.message), [], s)
  | .ok s => (.ok (.record [("capabilities", capabilities)]), [], { s with phase := .running })

/-- Carries out a command. -/
def execute (s : LanguageServer) (command : Text) (arguments : List Json.Value) : Answered :=
  match runCommand s.context command arguments with
  | .error refused => (.error refused, [], s)
  | .ok context =>
    let s := { s with context }
    (.ok .null, s.publications ++ [.refreshTokens], s)

/-- Answers a call that comes in the right phase. -/
def answer (s : LanguageServer) : Call → Answered
  | .setUp options => s.setUp options
  | .shutdown none => (.ok .null, [], { s with phase := .shutDown })
  | .shutdown (some params) =>
    (.error (.invalidParams ("Unexpected params: ".toList ++ params.compact)), [],
      { s with phase := .shutDown })
  | .semanticTokens uri =>
    (.ok (s.about uri fun text => some (.record [("data",
      .array ((semanticTokens (s.context.tokenize text)).map Json.Value.ofNat))])), [], s)
  | .completion uri place =>
    (.ok (s.about uri fun text =>
      match complete s.context text place with
      | [] => none
      | items => some (.array (items.map CompletionItem.toValue))), [], s)
  | .hover uri place =>
    (.ok (s.about uri fun text => (hover? s.context text place).map Hover.toValue), [], s)
  | .execute command arguments => s.execute command arguments

/-- Answers a call. -/
def call (s : LanguageServer) (c : Call) : Answered :=
  match s.phase.refusal? c.isSetUp with
  | some refused => (.error refused, [], s)
  | none => s.answer c

/-- Answers a call that is given by its method and parameters. A call in the wrong phase is refused
before its parameters are read. -/
def respond (s : LanguageServer) (method : Text) (params : Option Json.Value) : Answered :=
  match Call.read method params with
  | .ok c => s.call c
  | .error .methodNotFound => (.error .methodNotFound, [], s)
  | .error refused =>
    (.error ((s.phase.refusal? (method = "initialize".toList)).getD refused), [], s)

end LanguageServer

end StepScript
