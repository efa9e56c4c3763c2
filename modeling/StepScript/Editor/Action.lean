import StepScript.Editor

/-!
# Actions and queries: what can be asked of an editor

Whatever changes an editor is an action, and whatever only looks at it is a query. An action may
carry a payload that is refused; then there is no new editor (`Editor.perform`).
-/

namespace StepScript

/-- What changes an editor. -/
inductive Action where
  | setContent (text : Text)
  | edit (change : Edit)
  | setKeywords (payload : Text)
  | setElements (payload : Text) (clear : Bool)
  | setVariables (payload : Text) (clear : Bool)
  | setStepList (payload : Text) (clear : Bool)
  | setSyntaxMessage (message : Text)
  | setErrorLinks (payload : Text)
  | decorate (payload : Text)
  | toggle (line : Nat)
  | hover (line : Option Nat)
  | flush
  | highlight (style payload : Text)
  | showError (line : Nat) (data text : Text)
  | showCode (line : Nat) (data text : Text)
  | clearErrors
  | clear
  | setCursor (line : Nat)
  | execute (command : Command)
  deriving DecidableEq, Repr

/-- What only looks at an editor. -/
inductive Query where
  | content
  | problems
  | breakpoints
  /-- The lines in a class. -/
  | highlighted (style : Text)
  deriving DecidableEq, Repr

namespace Editor

/-- The editor after an action. -/
def perform (e : Editor) : Action → Except Failure Editor
  | .setContent text => .ok (e.setContent text)
  | .edit change => .ok (e.edit change)
  | .setKeywords payload => e.setKeywords payload
  | .setElements payload clear => e.setElements payload clear
  | .setVariables payload clear => e.setVariables payload clear
  | .setStepList payload clear => e.setStepList payload clear
  | .setSyntaxMessage message => .ok (e.setSyntaxMessage message)
  | .setErrorLinks payload => e.setErrorLinks payload
  | .decorate payload => e.decorate payload
  | .toggle line => .ok (e.toggle line).2
  | .hover line => .ok (e.hover line)
  | .flush => .ok e.flush.2
  | .highlight style payload => e.highlight style payload
  | .showError line data text => .ok (e.showError line data text)
  | .showCode line data text => .ok (e.showCode line data text)
  | .clearErrors => .ok e.clearErrors
  | .clear => .ok e.clear
  | .setCursor line => .ok (e.setCursor line)
  | .execute command => .ok (e.execute command)

/-- The answer to a query, as data. -/
def answer (e : Editor) : Query → Json.Value
  | .content => .string e.content
  | .problems => .array (e.problems.map Problem.toValue)
  | .breakpoints => .array (e.markers.canonical.map Breakpoint.toValue)
  | .highlighted style => .array ((e.markers.highlighted style).map Json.Value.ofNat)

end Editor

end StepScript
