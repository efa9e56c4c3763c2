import StepScript.Marker.Breakpoint
import StepScript.Marker.Highlight
import StepScript.Marker.Panel

/-!
# Markers: what is attached to the lines of a document

Breakpoints, highlights and panels share one set of anchors, so an edit moves them all alike. Each
operation works on the anchors and on one of the three; the other two are left alone.
-/

namespace StepScript

/-- Everything that is attached to the lines of a document. -/
structure Markers where
  anchors : Anchors
  breakpoints : Breakpoints
  highlights : Highlights
  panels : Panels
  deriving DecidableEq, Repr

namespace Markers

/-- Nothing attached. -/
def empty : Markers := ⟨.empty, .empty, .empty, .empty⟩

instance : Inhabited Markers := ⟨empty⟩

/-- Applies an operation on breakpoints. -/
def onBreakpoints (m : Markers) (f : Breakpoints → Anchors → Breakpoints × Anchors) : Markers :=
  let (breakpoints, anchors) := f m.breakpoints m.anchors
  { m with breakpoints, anchors }

/-- Applies an operation on highlights. -/
def onHighlights (m : Markers) (f : Highlights → Anchors → Highlights × Anchors) : Markers :=
  let (highlights, anchors) := f m.highlights m.anchors
  { m with highlights, anchors }

/-- Applies an operation on panels. -/
def onPanels (m : Markers) (f : Panels → Anchors → Panels × Anchors) : Markers :=
  let (panels, anchors) := f m.panels m.anchors
  { m with panels, anchors }

/-! ## Breakpoints -/

/-- Sets or removes the breakpoint on a line, and says whether one was set. -/
def toggle (m : Markers) (line : Nat) : Bool × Markers :=
  let (added, breakpoints, anchors) := m.breakpoints.toggle m.anchors line
  (added, { m with breakpoints, anchors })

/-- The pointer moved over the gutter of a line, or left the gutter. -/
def hover (m : Markers) (line : Option Nat) : Markers := m.onBreakpoints (·.hover · line)

/-- Replaces all breakpoints by the host's list. -/
def decorate (m : Markers) (list : List Breakpoint) : Markers := m.onBreakpoints (·.decorate · list)

/-- Drops breakpoints whose anchor is gone, and gives the list to report if one has moved. -/
def checkDrift (m : Markers) : Option (List Breakpoint) × Markers :=
  let (report, breakpoints) := m.breakpoints.checkDrift m.anchors
  (report, { m with breakpoints })

/-- The list to report, if a report is pending. -/
def flush (m : Markers) : Option (List Breakpoint) × Markers :=
  let (report, breakpoints) := m.breakpoints.flush m.anchors
  (report, { m with breakpoints })

/-- The breakpoints at their present lines. -/
def canonical (m : Markers) : List Breakpoint := m.breakpoints.canonical m.anchors

/-- The line of the hint. -/
def hintLine? (m : Markers) : Option Nat := m.breakpoints.hintLine? m.anchors

/-- The state of the breakpoint on a line. -/
def stateAt? (m : Markers) (line : Nat) : Option MarkerState :=
  m.breakpoints.stateAt? m.anchors line

/-! ## Highlights -/

/-- Puts lines into a class. -/
def highlight (m : Markers) (style : Text) (lines : List Nat) : Markers :=
  m.onHighlights (·.set · style lines)

/-- Removes all highlights. -/
def clearHighlights (m : Markers) : Markers := m.onHighlights Highlights.clear

/-- The lines in a class. -/
def highlighted (m : Markers) (style : Text) : List Nat := m.highlights.lines m.anchors style

/-- The class of a line. -/
def styleAt? (m : Markers) (line : Nat) : Option Text := m.highlights.styleAt? m.anchors line

/-! ## Panels -/

/-- Sets the links for error panels from now on. -/
def setLinks (m : Markers) (links : List ErrorLink) : Markers :=
  { m with panels := m.panels.setLinks links }

/-- Shows an error after a line. -/
def showError (m : Markers) (line : Nat) (data text : Text) : Markers :=
  m.onPanels (·.showError · line data text)

/-- Shows a piece of script after a line. -/
def showCode (m : Markers) (v : Vocabulary) (line : Nat) (data text : Text) : Markers :=
  m.onPanels (·.showCode · v line data text)

/-- Removes the error panels. -/
def clearErrors (m : Markers) : Markers := m.onPanels Panels.clearErrors

/-- Removes all panels. -/
def clearPanels (m : Markers) : Markers := m.onPanels Panels.clear

/-! ## Edits -/

/-- Moves everything for an edit in which `deleted` lines from `start` gave way to `inserted` ones.
Lines replaced one for one keep what is attached to them. -/
def replaceLines (m : Markers) (start deleted inserted : Nat) : Markers :=
  let common := min deleted inserted
  if inserted < deleted then
    { m with anchors := m.anchors.deleteLines (start + common) (deleted - inserted) }
  else if deleted < inserted then
    { m with anchors := m.anchors.insertLines (start + common) (inserted - deleted) }
  else m

end Markers

end StepScript
