import StepScript.Json.Value
import StepScript.LanguageServer.Place

/-!
# Messages of clients

A client sends calls, which are answered, and notices, which are not. Both come as the name of a
method and parameters, from which the server reads what it needs and passes over the rest. A notice
that cannot be read, or that the server has no use for, is passed over; a call is then refused.
-/

namespace StepScript.LanguageServer

/-- Why a call is refused. -/
inductive Refused where
  /-- The client has not initialized the server. -/
  | notInitialized
  /-- The call comes too late, or a second time. -/
  | invalidRequest
  | methodNotFound
  | invalidParams (reason : Text)
  deriving DecidableEq, Repr

namespace Refused

/-- The number of a refusal. -/
def code : Refused → Int
  | notInitialized => -32002
  | invalidRequest => -32600
  | methodNotFound => -32601
  | invalidParams _ => -32602

/-- The text of a refusal. -/
def message : Refused → Text
  | notInitialized => "Server not initialized".toList
  | invalidRequest => "Invalid request".toList
  | methodNotFound => "Method not found".toList
  | invalidParams reason => reason

/-- A refusal as data. -/
def toValue (r : Refused) : Json.Value :=
  .record [("code", .ofInt r.code), ("message", .string r.message)]

end Refused

/-- A message that is answered. -/
inductive Call where
  /-- The settings of the client, if it sends any. -/
  | setUp (options : Option Json.Value)
  /-- Ends the service. It takes no parameters. -/
  | shutdown (unexpected : Option Json.Value)
  | semanticTokens (uri : Text)
  | completion (uri : Text) (place : Place)
  | hover (uri : Text) (place : Place)
  | execute (command : Text) (arguments : List Json.Value)

/-- A message that is not answered. -/
inductive Notice where
  | opened (uri : Text) (version : Int) (text : Text)
  /-- The whole text after each change. -/
  | changed (uri : Text) (version : Int) (texts : List Text)
  | closed (uri : Text)
  deriving DecidableEq, Repr

/-! ## Reading -/

/-- The document that parameters are about. -/
def readUri? (params : Json.Value) : Option Text :=
  ((params.member? "textDocument").bind (·.member? "uri")).bind Json.Value.string?

/-- The version of the document that parameters are about. -/
def readVersion? (params : Json.Value) : Option Int :=
  ((params.member? "textDocument").bind (·.member? "version")).bind Json.Value.integer?

/-- The place that parameters are about. -/
def readPlace? (params : Json.Value) : Option Place := do
  let position ← params.member? "position"
  let line ← (position.member? "line").bind Json.Value.natural?
  let character ← (position.member? "character").bind Json.Value.natural?
  return ⟨line, character⟩

/-- The member of an object under a name, if it is not null. -/
def present? (v : Json.Value) (name : String) : Option Json.Value :=
  match v.member? name with
  | some .null => none
  | other => other

/-- The call that a method and its parameters make, if the parameters can be read. -/
def Call.ofParams? (method : String) (params : Json.Value) : Option Call :=
  match method with
  | "initialize" =>
    (params.member? "capabilities").map fun _ => .setUp (present? params "initializationOptions")
  | "textDocument/semanticTokens/full" => (readUri? params).map .semanticTokens
  | "textDocument/completion" => do
    return .completion (← readUri? params) (← readPlace? params)
  | "textDocument/hover" => do
    return .hover (← readUri? params) (← readPlace? params)
  | "workspace/executeCommand" => do
    let command ← (params.member? "command").bind Json.Value.string?
    let arguments ← match params.member? "arguments" with
      | none => some []
      | some list => list.items?
    return .execute command arguments
  | _ => none

/-- The methods of calls that need parameters. -/
def callMethods : List String :=
  ["initialize", "textDocument/semanticTokens/full", "textDocument/completion",
    "textDocument/hover", "workspace/executeCommand"]

/-- The call that a method and its parameters make. -/
def Call.read (method : Text) (params : Option Json.Value) : Except Refused Call :=
  let name := String.ofList method
  if name = "shutdown" then .ok (.shutdown params)
  else if callMethods.contains name then
    match params with
    | none => .error (.invalidParams "Missing params field".toList)
    | some params =>
      match Call.ofParams? name params with
      | some call => .ok call
      | none => .error (.invalidParams "Unreadable params".toList)
  else .error .methodNotFound

/-- Whether a call begins the service. -/
def Call.isSetUp : Call → Bool
  | setUp _ => true
  | _ => false

/-- The notice that a method and its parameters make, if the server has a use for it. -/
def Notice.read? (method : Text) (params : Json.Value) : Option Notice := do
  let uri ← readUri? params
  match String.ofList method with
  | "textDocument/didOpen" =>
    let document ← params.member? "textDocument"
    return .opened uri (← readVersion? params) (← (document.member? "text").bind Json.Value.string?)
  | "textDocument/didChange" =>
    let changes ← (params.member? "contentChanges").bind Json.Value.items?
    let texts ← changes.mapM fun change => (change.member? "text").bind Json.Value.string?
    return .changed uri (← readVersion? params) texts
  | "textDocument/didClose" => return .closed uri
  | _ => none

end StepScript.LanguageServer
