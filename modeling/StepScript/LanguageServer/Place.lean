import StepScript.Json.Value
import StepScript.Text.Measure

/-!
# Places: how the language server protocol counts

Lines are counted from zero, and inside a line a place is counted in sixteen-bit units. What is
shown at a place is a text in Markdown.
-/

namespace StepScript.LanguageServer

/-- A place in a document. -/
structure Place where
  line : Nat
  character : Nat
  deriving DecidableEq, Repr

/-- The part of a document between two places. -/
structure Span where
  start : Place
  finish : Place
  deriving DecidableEq, Repr

/-- A place as data. -/
def Place.toValue (p : Place) : Json.Value :=
  .record [("line", .ofNat p.line), ("character", .ofNat p.character)]

namespace Span

/-- The part of a line that lies between two of its initial parts. -/
def inLine (line : Nat) (before through : Text) : Span :=
  ⟨⟨line, before.unitLength⟩, ⟨line, through.unitLength⟩⟩

/-- A whole line. -/
def ofLine (line : Nat) (text : Text) : Span := inLine line [] text

/-- A part of a document as data. -/
def toValue (s : Span) : Json.Value :=
  .record [("start", s.start.toValue), ("end", s.finish.toValue)]

end Span

/-- A text in Markdown as data. -/
def markdownValue (t : Text) : Json.Value :=
  .record [("kind", .ofString "markdown"), ("value", .string t)]

end StepScript.LanguageServer
