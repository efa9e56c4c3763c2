import StepScript.Grammar
import StepScript.Json.Decode
import StepScript.Marker.Anchor

/-!
# Panels: messages and code shown between lines

A panel is shown after a line and follows it. An error panel offers the links that were set when it
was made; a code panel shows tokens of a piece of script, whose second line is the one being run.
Panels are only added, and cleared together: the error panels, or all of them.
-/

namespace StepScript

/-- A link that an error panel offers. -/
structure ErrorLink where
  id : Text
  title : Text
  deriving DecidableEq, Repr

/-- The link that a tree writes. -/
def ErrorLink.decoder : Json.Decoder ErrorLink := fun depth tree => do
  let (inner, fields) ← Json.Decoder.fields? ["id", "title"] depth tree
  match fields with
  | [id, title] =>
    some {
      id := ← Json.Decoder.required Json.Decoder.string inner id
      title := ← Json.Decoder.required Json.Decoder.string inner title }
  | _ => none

/-- What a panel shows beside its text. -/
inductive PanelContent where
  | error (links : List ErrorLink)
  | code (tokens : List LineTokens)
  deriving DecidableEq, Repr

namespace PanelContent

/-- Whether the panel shows an error. -/
def isError : PanelContent → Bool
  | error _ => true
  | code _ => false

/-- The index of the line of code that is being run. -/
def currentLine? : PanelContent → Option Nat
  | error _ => none
  | code tokens => if 1 < tokens.length then some 1 else none

end PanelContent

/-- A panel shown after a line. -/
structure Panel where
  anchor : AnchorId
  /-- Data that the host keeps with the panel. -/
  data : Text
  text : Text
  content : PanelContent
  deriving DecidableEq, Repr

/-- The panels of a document. -/
structure Panels where
  /-- The panels in the order in which they were made. -/
  list : List Panel
  /-- The links for error panels from now on. -/
  links : List ErrorLink
  deriving DecidableEq, Repr

namespace Panels

/-- No panels and no links. -/
def empty : Panels := ⟨[], []⟩

instance : Inhabited Panels := ⟨empty⟩

/-- The line after which a panel is shown now. -/
def line? (anchors : Anchors) (panel : Panel) : Option Nat := anchors.line? panel.anchor

/-- Sets the links for error panels from now on. -/
def setLinks (p : Panels) (links : List ErrorLink) : Panels := { p with links }

/-- Adds a panel to the end. -/
def add (p : Panels) (anchors : Anchors) (line : Nat) (data text : Text)
    (content : PanelContent) : Panels × Anchors :=
  let (id, anchors) := anchors.create (.ofLine line)
  ({ p with list := p.list ++ [⟨id, data, text, content⟩] }, anchors)

/-- Shows an error after a line. -/
def showError (p : Panels) (anchors : Anchors) (line : Nat) (data text : Text) :
    Panels × Anchors :=
  p.add anchors line data text (.error p.links)

/-- Shows a piece of script after a line. -/
def showCode (p : Panels) (anchors : Anchors) (v : Vocabulary) (line : Nat) (data text : Text) :
    Panels × Anchors :=
  p.add anchors line data text (.code (v.tokenize text))

/-- Removes the error panels. -/
def clearErrors (p : Panels) (anchors : Anchors) : Panels × Anchors :=
  let (errors, others) := p.list.partition (·.content.isError)
  ({ p with list := others }, anchors.removeAll (errors.map Panel.anchor))

/-- Removes all panels. The links stay. -/
def clear (p : Panels) (anchors : Anchors) : Panels × Anchors :=
  ({ p with list := [] }, anchors.removeAll (p.list.map Panel.anchor))

end Panels

end StepScript
