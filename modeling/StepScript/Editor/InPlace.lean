import StepScript.Context.InPlace
import StepScript.Editor.Action

/-!
# Actions in place

How an editor carries out an action: on itself, as a program. Where an action brings a payload, the
payload is read first. A change of the tables is one of the context (`InPlace.configure`), after
which the tokens and problems are derived anew; other payloads replace something that is attached to
lines (`InPlace.attach`). Whether the action is carried out or refused, the program leaves an editor
behind (`Editor.leftBy`).
-/

namespace StepScript.Editor

namespace InPlace

/-- Changes the tables, and then derives tokens and problems anew. -/
def configure (change : Program Context Failure Unit) : Program Editor Failure Unit := do
  change.onPart context fun e c => { e with context := c }
  modify refresh

/-- Reads a payload, and then changes what is attached to lines. -/
def attach {α : Type} (subject : Subject) (decoder : Json.Decoder α) (payload : Text)
    (change : Markers → α → Markers) : Program Editor Failure Unit := do
  let a ← readPayload subject decoder payload
  modify fun e => e.withMarkers (change e.markers a)

/-- Carries out an action. -/
def perform : Action → Program Editor Failure Unit
  | .setContent text => modify (·.setContent text)
  | .edit change => modify (·.edit change)
  | .setKeywords payload => configure (Context.InPlace.setKeywords payload)
  | .setElements payload clear => configure (Context.InPlace.setElements payload clear)
  | .setVariables payload clear => configure (Context.InPlace.setVariables payload clear)
  | .setStepList payload clear => configure (Context.InPlace.setStepList payload clear)
  | .setSyntaxMessage message => configure (Context.InPlace.setSyntaxMessage message)
  | .setErrorLinks payload =>
    attach .errorLinks (Json.Decoder.list ErrorLink.decoder) payload Markers.setLinks
  | .decorate payload =>
    attach .breakpoints (Json.Decoder.list Breakpoint.decoder) payload Markers.decorate
  | .toggle line => modify fun e => (e.toggle line).2
  | .hover line => modify (·.hover line)
  | .flush => modify fun e => e.flush.2
  | .highlight style payload =>
    attach .highlightLines linesDecoder payload (·.highlight style ·)
  | .showError line data text => modify (·.showError line data text)
  | .showCode line data text => modify (·.showCode line data text)
  | .clearErrors => modify clearErrors
  | .clear => modify clear
  | .setCursor line => modify (·.setCursor line)
  | .execute command => modify (·.execute command)

end InPlace

/-- The editor that an action leaves behind, carried out or refused. -/
def leftBy (e : Editor) (action : Action) : Editor := ((InPlace.perform action).outcome e).2

end StepScript.Editor
