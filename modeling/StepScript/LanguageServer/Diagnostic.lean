import StepScript.Context
import StepScript.LanguageServer.Place

/-!
# Diagnostics: problems as the editor marks them

A problem marks the whole of its line as an error. The diagnostics of a document are published
together and replace those that were published before; they name the version of the text that was
checked, except after the document was closed.
-/

namespace StepScript.LanguageServer

/-- A marked problem. -/
structure Diagnostic where
  span : Span
  message : Text
  deriving DecidableEq, Repr

/-- The name under which the server marks problems. -/
def sourceName : String := "gherkin-lens"

/-- The number that says that a problem is an error. -/
def errorSeverity : Nat := 1

/-- A marked problem as data. -/
def Diagnostic.toValue (d : Diagnostic) : Json.Value :=
  .record [("range", d.span.toValue), ("severity", .ofNat errorSeverity),
    ("source", .ofString sourceName), ("message", .string d.message)]

/-- The problem of a line as a mark on that line. -/
def Diagnostic.ofProblem (lines : List Text) (p : Problem) : Diagnostic :=
  let line := p.line - 1
  ⟨.ofLine line ((lines[line]?).getD []), p.message⟩

/-- The diagnostics of a document. -/
def diagnostics (c : Context) (document : Text) : List Diagnostic :=
  (c.check document).map (Diagnostic.ofProblem document.lines)

/-- The diagnostics that are now those of a document. -/
structure Publication where
  uri : Text
  /-- The version of the text that was checked; none for a closed document. -/
  version : Option Int
  diagnostics : List Diagnostic
  deriving DecidableEq, Repr

/-- A publication as data. -/
def Publication.toValue (p : Publication) : Json.Value :=
  .record ([("uri", .string p.uri),
      ("diagnostics", .array (p.diagnostics.map Diagnostic.toValue))] ++
    (p.version.map fun v => ("version", Json.Value.ofInt v)).toList)

end StepScript.LanguageServer
