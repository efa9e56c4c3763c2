import StepScript.LanguageServer

/-!
# Envelopes: messages as they are exchanged with a client

A message of the client is an object with a method and perhaps parameters; one that is to be
answered has an identifier too, and the answer carries it back. The messages that the server sends
of its own accord have methods of their own, and a request among them gets a number that no other
one has.
-/

namespace StepScript.LanguageServer

/-- A message of the client. -/
inductive Envelope where
  /-- A call with its identifier. -/
  | call (id : Json.Value) (method : Text) (params : Option Json.Value)
  | notice (method : Text) (params : Option Json.Value)
  /-- An answer to a request of the server. -/
  | answer

namespace Envelope

/-- The message that data holds. -/
def ofValue (v : Json.Value) : Envelope :=
  match (v.member? "method").bind Json.Value.string?, v.member? "id" with
  | some method, some id => call id method (v.member? "params")
  | some method, none => notice method (v.member? "params")
  | none, _ => answer

/-- Whether the client wants the server to end. -/
def isExit : Envelope → Bool
  | notice method _ => method = "exit".toList
  | _ => false

end Envelope

/-- An object of the protocol with the given members. -/
def enveloped (members : List (String × Json.Value)) : Json.Value :=
  .record (("jsonrpc", .ofString "2.0") :: members)

/-- The answer to a call as data. -/
def answerValue (id : Json.Value) : Except Refused Json.Value → Json.Value
  | .ok result => enveloped [("id", id), ("result", result)]
  | .error refused => enveloped [("id", id), ("error", refused.toValue)]

/-- The answer to a message that is no data. -/
def unreadableValue : Json.Value :=
  enveloped [("id", .null),
    ("error", .record [("code", .ofInt (-32700)), ("message", .ofString "Parse error")])]

/-- A message of the server as data; a request gets the identifier `id`. -/
def messageValue (id : Nat) : ServerMessage → Json.Value
  | .publish p =>
    enveloped [("method", .ofString "textDocument/publishDiagnostics"), ("params", p.toValue)]
  | .refreshTokens =>
    enveloped [("id", .ofNat id), ("method", .ofString "workspace/semanticTokens/refresh")]

/-- Messages of the server as data, their requests numbered from `id` on. -/
def messageValues (id : Nat) (messages : List ServerMessage) : List Json.Value :=
  (messages.zipIdx id).map fun m => messageValue m.2 m.1

/-- What comes of a message of the client: the data to send back, and the server after it. -/
def exchange (s : LanguageServer) (nextId : Nat) (message : Envelope) :
    List Json.Value × LanguageServer :=
  match message with
  | .call id method params =>
    let (result, sent, s) := s.respond method params
    (messageValues nextId sent ++ [answerValue id result], s)
  | .notice method params =>
    match Notice.read? method (.orNull params) with
    | some n =>
      let (sent, s) := s.notice n
      (messageValues nextId sent, s)
    | none => ([], s)
  | .answer => ([], s)

end StepScript.LanguageServer
