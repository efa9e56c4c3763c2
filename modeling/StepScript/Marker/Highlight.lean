import StepScript.Marker.Anchor
import StepScript.Text.Basic

/-!
# Highlights: whole lines coloured while a script runs

A highlight puts a line into a class such as `current`, `complete` or `error`. A line is in one
class at a time: setting a class takes its lines out of the class they were in. The class `current`
is where the script stands, so setting it takes all lines out of it first. Setting the empty class
only takes lines out.
-/

namespace StepScript

/-- A line in a class. -/
structure Highlight where
  anchor : AnchorId
  /-- The class of the line. -/
  style : Text
  deriving DecidableEq, Repr

/-- The highlighted lines of a document. -/
structure Highlights where
  entries : List Highlight
  deriving DecidableEq, Repr

namespace Highlights

/-- No highlights. -/
def empty : Highlights := ⟨[]⟩

instance : Inhabited Highlights := ⟨empty⟩

/-- The class of the step that is being run. -/
def current : Text := "current".toList

/-- Whether a highlight gives way when `style` is set on `lines`: its anchor is gone, its line is
among them, or both it and they are current. -/
def givesWay (anchors : Anchors) (style : Text) (lines : List Nat) (h : Highlight) : Bool :=
  match anchors.line? h.anchor with
  | none => true
  | some line => (style = current && h.style = current) || lines.contains line

/-- The numbers without repetitions, in the order in which they first occur. -/
def distinct : List Nat → List Nat
  | [] => []
  | n :: rest => n :: (distinct rest).filter (· ≠ n)

/-- Adds a highlight to the end. -/
def add (style : Text) (added : Highlights × Anchors) (line : Nat) : Highlights × Anchors :=
  let (id, anchors) := added.2.create (.ofLine line)
  (⟨added.1.entries ++ [⟨id, style⟩]⟩, anchors)

/-- Puts lines into a class. -/
def set (h : Highlights) (anchors : Anchors) (style : Text) (lines : List Nat) :
    Highlights × Anchors :=
  let (gone, kept) := h.entries.partition (givesWay anchors style lines)
  let anchors := anchors.removeAll (gone.map Highlight.anchor)
  if style = [] then (⟨kept⟩, anchors)
  else (distinct lines).foldl (add style) (⟨kept⟩, anchors)

/-- The lines that are in a class now, in ascending order. -/
def lines (h : Highlights) (anchors : Anchors) (style : Text) : List Nat :=
  let found := (h.entries.filter (·.style = style)).filterMap fun e => anchors.line? e.anchor
  distinct (found.mergeSort (· ≤ ·))

/-- The class of a line. -/
def styleAt? (h : Highlights) (anchors : Anchors) (line : Nat) : Option Text :=
  (h.entries.find? fun e => anchors.line? e.anchor = some line).map Highlight.style

/-- Removes all highlights. -/
def clear (h : Highlights) (anchors : Anchors) : Highlights × Anchors :=
  (empty, anchors.removeAll (h.entries.map Highlight.anchor))

end Highlights

end StepScript
