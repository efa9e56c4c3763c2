import StepScript.Editor.InPlace

/-!
# Requests: what a host asks over the bridge

A request names a method and lists its arguments. What it asks for is worked out before anything
is done (`Request.operation`): arguments are looked at in a fixed order, and the first one that is
missing or has the wrong form is the one that is complained about. A payload argument is either
data or a string that holds the text of data.

An editor is asked in one of two ways. `Editor.serve` says at once what comes of a request: an
answer and another editor, or a refusal. `Editor.dispatch` does it in place, and leaves an editor
behind whatever happens.
-/

namespace StepScript

/-- A request of the host. -/
structure Request where
  method : Text
  params : List Json.Value

/-- The request that a tree writes. -/
def Request.decoder : Json.Decoder Request := fun depth tree => do
  let (inner, fields) ← Json.Decoder.fields? ["method", "params"] depth tree
  match fields with
  | [method, params] =>
    some {
      method := ← Json.Decoder.required Json.Decoder.string inner method
      params := ← Json.Decoder.withDefault (Json.Decoder.list Json.Decoder.value) [] inner params }
  | _ => none

/-- Why a request cannot be served. Arguments are counted from one. -/
inductive Refusal where
  | unknownMethod (method : Text)
  | missing (argument : Nat)
  | notString (argument : Nat)
  | notLine (argument : Nat)
  | notLines (argument : Nat)
  /-- A payload was refused. -/
  | payload (failure : Failure)
  deriving DecidableEq, Repr

/-- The text of a refusal. -/
def Refusal.message : Refusal → Text
  | unknownMethod method => "unknown method: ".toList ++ method
  | missing argument => "missing argument ".toList ++ Text.ofNat argument
  | notString argument => argumentMust argument "be a string"
  | notLine argument => argumentMust argument "be a line number"
  | notLines argument => argumentMust argument "be a list of lines"
  | payload failure => failure.message
where
  /-- What is wrong with an argument. -/
  argumentMust (argument : Nat) (form : String) : Text :=
    "argument ".toList ++ Text.ofNat argument ++ " must ".toList ++ form.toList

/-- What a request asks for. -/
inductive Operation where
  | query (query : Query)
  | action (action : Action)

namespace Request

/-! ## Arguments -/

/-- An argument. -/
def argument (r : Request) (index : Nat) : Except Refusal Json.Value :=
  match r.params[index]? with
  | some v => .ok v
  | none => .error (.missing (index + 1))

/-- An argument that is a string. -/
def text (r : Request) (index : Nat) : Except Refusal Text := do
  match (← r.argument index).string? with
  | some s => .ok s
  | none => .error (.notString (index + 1))

/-- An argument that is a line number. -/
def line (r : Request) (index : Nat) : Except Refusal Nat := do
  match (← r.argument index).natural? with
  | some n => if n < Json.twoTo 32 then .ok n else .error (.notLine (index + 1))
  | none => .error (.notLine (index + 1))

/-- An argument that is a list of lines of text. -/
def lines (r : Request) (index : Nat) : Except Refusal (List Text) := do
  match (← r.argument index).items?.bind fun items => items.mapM Json.Value.string? with
  | some lines => .ok lines
  | none => .error (.notLines (index + 1))

/-- An argument that is a payload. -/
def payload (r : Request) (index : Nat) : Except Refusal Text := do
  return (← r.argument index).asText

/-- An argument that may be missing or of any form, and is false then. -/
def flag (r : Request) (index : Nat) : Bool :=
  (r.params[index]?.bind Json.Value.bool?).getD false

/-- An argument that is a line number, or null, or missing. -/
def line? (r : Request) (index : Nat) : Except Refusal (Option Nat) :=
  match r.params[index]? with
  | none | some .null => .ok none
  | some _ => do return some (← r.line index)

/-! ## Methods -/

/-- The edit that a request describes. -/
def edit (r : Request) : Except Refusal Edit := do
  let inserted ← r.lines 2
  return ⟨← r.line 0, ← r.line 1, inserted⟩

/-- What a request asks for. -/
def operation (r : Request) : Except Refusal Operation := do
  match String.ofList r.method with
  | "getContent" => return .query .content
  | "getProblems" => return .query .problems
  | "getBreakpoints" => return .query .breakpoints
  | "getHighlight" => return .query (.highlighted (← r.text 0))
  | "setContent" => return .action (.setContent (← r.text 0))
  | "edit" => return .action (.edit (← r.edit))
  | "setKeywords" => return .action (.setKeywords (← r.payload 0))
  | "setElements" => return .action (.setElements (← r.payload 0) (r.flag 1))
  | "setVariables" => return .action (.setVariables (← r.payload 0) (r.flag 1))
  | "setStepList" => return .action (.setStepList (← r.payload 0) (r.flag 1))
  | "setSyntaxMessage" => return .action (.setSyntaxMessage (← r.text 0))
  | "setErrorLinks" => return .action (.setErrorLinks (← r.payload 0))
  | "decorateBreakpoints" => return .action (.decorate (← r.payload 0))
  | "toggleBreakpoint" => return .action (.toggle (← r.line 0))
  | "hover" => return .action (.hover (← r.line? 0))
  | "setCursor" => return .action (.setCursor (← r.line 0))
  | "setHighlight" => return .action (.highlight (← r.text 0) (← r.payload 1))
  | "showError" => return .action (.showError (← r.line 0) (← r.text 1) (← r.text 2))
  | "showCode" => return .action (.showCode (← r.line 0) (← r.text 1) (← r.text 2))
  | "clearErrors" => return .action .clearErrors
  | "clear" => return .action .clear
  | "startDebugging" => return .action (.execute .startDebugging)
  | "startDebuggingAtStep" => return .action (.execute .startDebuggingAtStep)
  | "startDebuggingAtStepAndContinue" => return .action (.execute .startDebuggingAtStepAndContinue)
  | "startDebuggingAtEntry" => return .action (.execute .startDebuggingAtEntry)
  | "stepOver" => return .action (.execute .stepOver)
  | "toggleBreakpointAtCursor" => return .action (.execute .toggleBreakpoint)
  | _ => .error (.unknownMethod r.method)

end Request

namespace Editor

/-- Carries out an operation; a query has an answer. -/
def carryOut (e : Editor) : Operation → Except Refusal (Option Json.Value × Editor)
  | .query query => .ok (some (e.answer query), e)
  | .action action =>
    match e.perform action with
    | .ok changed => .ok (none, changed)
    | .error failure => .error (.payload failure)

/-- Serves a request; a query has an answer. -/
def serve (e : Editor) (r : Request) : Except Refusal (Option Json.Value × Editor) := do
  e.carryOut (← r.operation)

/-- Serves a request in place; a query has an answer. -/
def dispatch (r : Request) : Program Editor Refusal (Option Json.Value) := do
  match ← r.operation with
  | .query query => return some ((← get).answer query)
  | .action action =>
    ExceptT.adapt Refusal.payload (InPlace.perform action)
    return none

end Editor

end StepScript
