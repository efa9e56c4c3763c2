import StepScript.Context
import StepScript.LanguageServer.Place
import StepScript.Markdown

/-!
# Hover: the step of a line

A line that names a step shows the label of the step, its keyword and section, its body and its
documentation. Whatever the step lacks is left out.
-/

namespace StepScript.LanguageServer

/-- The keyword and the section of a step, unless it has neither. -/
def hoverOrigin (s : Step) : List Text :=
  if s.keyword = [] ∧ s.group = [] then []
  else [Markdown.emphasis s.keyword ++ if s.group = [] then [] else " | ".toList ++ s.group]

/-- The description of a step. -/
def hoverText (s : Step) : Text :=
  "\n\n".toList.intercalate ([Markdown.heading s.label] ++ hoverOrigin s ++
    (if s.body = [] then [] else [Markdown.codeBlock s.body]) ++
    if s.documentation = [] then [] else [s.documentation])

/-- The step that a line names. -/
structure Hover where
  step : Step
  /-- The line. -/
  span : Span

/-- What is shown, as data. -/
def Hover.toValue (h : Hover) : Json.Value :=
  .record [("contents", markdownValue (hoverText h.step)), ("range", h.span.toValue)]

/-- The step of the line at a place. -/
def hover? (c : Context) (document : Text) (place : Place) : Option Hover := do
  let line ← document.lines[place.line]?
  let step ← c.stepForLine? line
  return ⟨step, .ofLine place.line line⟩

end StepScript.LanguageServer
