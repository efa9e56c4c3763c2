import Mathlib
import StepScript.Proofs.Marker.Ownership

/-!
# Families do not interfere

**Three families.** Breakpoints and their hint, highlights, and panels share one store of anchors,
so an operation on one of them could move or remove what another is attached to. What can be asked
of a family is read off its own list and the anchors that it holds (`Markers.SameBreakpoints`,
`Markers.SameHighlights`, `Markers.SamePanels`). So nothing that can be asked of it changes if its
list is left alone and its anchors stay where they are.

**Frames.** `Markers.Frame m m' touched` says that every anchor of `m'` has one owner and that only
the families in `touched` may answer otherwise than before. An operation on one family touches that
one only (`Owned.frame_breakpoints`, `Owned.frame_highlights`, `Owned.frame_panels`), and frames
of one operation after another compose (`Frame.trans`).
-/

namespace StepScript

open Anchors

/-- What is attached to lines is of three families. -/
inductive Family where
  /-- Breakpoints and their hint. -/
  | breakpoints
  | highlights
  | panels
  deriving DecidableEq, Repr

/-- Anchors that resolve alike are on the same line. -/
theorem Anchors.line?_congr {a a' : Anchors} {id : AnchorId}
    (same : a'.resolve? id = a.resolve? id) : a'.line? id = a.line? id := by
  rw [line?, line?, same]

/-! ## What can be asked of each family -/

namespace Breakpoints

variable {b : Breakpoints} {a a' : Anchors}

/-- The breakpoints to report depend on the anchors of the markers only. -/
theorem canonical_congr (same : ∀ id ∈ b.held, a'.resolve? id = a.resolve? id) :
    b.canonical a' = b.canonical a := by
  have placed : b.placed a' = b.placed a := by
    unfold placed
    refine List.filterMap_congr fun k mem => ?_
    have held : k.anchor ∈ b.held := List.mem_append_left _ (List.mem_map_of_mem mem)
    rw [line?_congr (same k.anchor held)]
  rw [canonical, canonical, placed]

/-- So does the state of the marker on a line. -/
theorem stateAt?_congr (same : ∀ id ∈ b.held, a'.resolve? id = a.resolve? id) (line : Nat) :
    b.stateAt? a' line = b.stateAt? a line := by
  have found : b.markerAt? a' line = b.markerAt? a line := by
    unfold markerAt?
    refine List.find?_congr fun k mem => ?_
    have held : k.anchor ∈ b.held := List.mem_append_left _ (List.mem_map_of_mem mem)
    rw [line?_congr (same k.anchor held)]
  rw [stateAt?, stateAt?, found]

/-- The line of the hint depends on its anchor only. -/
theorem hintLine?_congr (same : ∀ id ∈ b.held, a'.resolve? id = a.resolve? id) :
    b.hintLine? a' = b.hintLine? a := by
  unfold hintLine?
  cases hint : b.hint with
  | none => rfl
  | some id =>
    have held : id ∈ b.held := by
      refine List.mem_append_right _ ?_
      rw [hint]
      exact List.mem_singleton.mpr rfl
    exact line?_congr (same id held)

end Breakpoints

/-- The lines in a class depend on the anchors of the highlights only. -/
theorem Highlights.lines_congr {h : Highlights} {a a' : Anchors}
    (same : ∀ id ∈ h.held, a'.resolve? id = a.resolve? id) (style : Text) :
    h.lines a' style = h.lines a style := by
  have found : (h.entries.filter (·.style = style)).filterMap (fun e => a'.line? e.anchor) =
      (h.entries.filter (·.style = style)).filterMap fun e => a.line? e.anchor := by
    refine List.filterMap_congr fun e mem => ?_
    exact line?_congr (same e.anchor (List.mem_map_of_mem (List.mem_of_mem_filter mem)))
  rw [lines, lines, found]

namespace Markers

variable {m m' m'' : Markers}

/-- The breakpoints, their states and the hint are the same. -/
structure SameBreakpoints (m m' : Markers) : Prop where
  canonical : m'.canonical = m.canonical
  stateAt? : ∀ line, m'.stateAt? line = m.stateAt? line
  hintLine? : m'.hintLine? = m.hintLine?

/-- The lines of every class are the same. -/
def SameHighlights (m m' : Markers) : Prop := ∀ style, m'.highlighted style = m.highlighted style

/-- The panels are the same, each after the same line. -/
structure SamePanels (m m' : Markers) : Prop where
  list : m'.panels.list = m.panels.list
  line? : ∀ panel ∈ m.panels.list, Panels.line? m'.anchors panel = Panels.line? m.anchors panel

/-- Breakpoints are the same if they and their anchors are left alone. -/
theorem SameBreakpoints.of_same (breakpoints : m'.breakpoints = m.breakpoints)
    (same : ∀ id ∈ m.breakpoints.held, m'.anchors.resolve? id = m.anchors.resolve? id) :
    m.SameBreakpoints m' := by
  refine ⟨?_, fun line => ?_, ?_⟩
  · rw [Markers.canonical, Markers.canonical, breakpoints]
    exact Breakpoints.canonical_congr same
  · rw [Markers.stateAt?, Markers.stateAt?, breakpoints]
    exact Breakpoints.stateAt?_congr same line
  · rw [Markers.hintLine?, Markers.hintLine?, breakpoints]
    exact Breakpoints.hintLine?_congr same

/-- Highlights are the same if they and their anchors are left alone. -/
theorem SameHighlights.of_same (highlights : m'.highlights = m.highlights)
    (same : ∀ id ∈ m.highlights.held, m'.anchors.resolve? id = m.anchors.resolve? id) :
    m.SameHighlights m' := by
  intro style
  rw [highlighted, highlighted, highlights]
  exact Highlights.lines_congr same style

/-- Panels are the same if they and their anchors are left alone. -/
theorem SamePanels.of_same (list : m'.panels.list = m.panels.list)
    (same : ∀ id ∈ m.panels.held, m'.anchors.resolve? id = m.anchors.resolve? id) :
    m.SamePanels m' :=
  ⟨list, fun panel mem => line?_congr (same panel.anchor (List.mem_map_of_mem mem))⟩

/-! ## Frames -/

/-- Every anchor of `m'` has one owner, and what is not touched is as it was in `m`. -/
structure Frame (m m' : Markers) (touched : Family → Prop) : Prop where
  owned : m'.Owned
  breakpoints : ¬ touched .breakpoints → m.SameBreakpoints m'
  highlights : ¬ touched .highlights → m.SameHighlights m'
  panels : ¬ touched .panels → m.SamePanels m'

namespace Frame

variable {touched more : Family → Prop}

/-- If everything may be touched, only the owners matter. -/
theorem of_owned (owned : m'.Owned) (all : ∀ family, touched family) : m.Frame m' touched :=
  ⟨owned, fun untouched => absurd (all _) untouched, fun untouched => absurd (all _) untouched,
    fun untouched => absurd (all _) untouched⟩

/-- Nothing done, nothing touched. -/
theorem refl (owned : m.Owned) : m.Frame m touched :=
  ⟨owned, fun _ => .of_same rfl fun _ _ => rfl, fun _ => .of_same rfl fun _ _ => rfl,
    fun _ => .of_same rfl fun _ _ => rfl⟩

/-- More may be touched. -/
theorem mono (frame : m.Frame m' touched) (only : ∀ family, touched family → more family) :
    m.Frame m' more :=
  ⟨frame.owned, fun untouched => frame.breakpoints (mt (only _) untouched),
    fun untouched => frame.highlights (mt (only _) untouched),
    fun untouched => frame.panels (mt (only _) untouched)⟩

/-- One operation after another. -/
theorem trans (first : m.Frame m' touched) (second : m'.Frame m'' touched) :
    m.Frame m'' touched := by
  refine ⟨second.owned, fun untouched => ?_, fun untouched style => ?_, fun untouched => ?_⟩
  · have before := first.breakpoints untouched
    have after := second.breakpoints untouched
    exact ⟨after.canonical.trans before.canonical,
      fun line => (after.stateAt? line).trans (before.stateAt? line),
      after.hintLine?.trans before.hintLine?⟩
  · exact (second.highlights untouched style).trans (first.highlights untouched style)
  · have before := first.panels untouched
    have after := second.panels untouched
    refine ⟨after.list.trans before.list, fun panel mem => ?_⟩
    exact (after.line? panel (before.list ▸ mem)).trans (before.line? panel mem)

end Frame

namespace Owned

/-- **An operation on breakpoints** touches these only. -/
theorem frame_breakpoints (owned : m.Owned) {b : Breakpoints} {a : Anchors}
    (exchange : Exchange m.anchors m.breakpoints.held a b.held) :
    m.Frame { m with breakpoints := b, anchors := a } (· = .breakpoints) := by
  obtain ⟨owned', same⟩ := owned.withBreakpoints exchange
  refine ⟨owned', fun untouched => absurd rfl untouched, fun _ => .of_same rfl fun id mem => ?_,
    fun _ => .of_same rfl fun id mem => ?_⟩
  · exact same id (List.mem_append_left _ mem)
  · exact same id (List.mem_append_right _ mem)

/-- **An operation on highlights** touches these only. -/
theorem frame_highlights (owned : m.Owned) {h : Highlights} {a : Anchors}
    (exchange : Exchange m.anchors m.highlights.held a h.held) :
    m.Frame { m with highlights := h, anchors := a } (· = .highlights) := by
  obtain ⟨owned', same⟩ := owned.withHighlights exchange
  refine ⟨owned', fun _ => .of_same rfl fun id mem => ?_, fun untouched => absurd rfl untouched,
    fun _ => .of_same rfl fun id mem => ?_⟩
  · exact same id (List.mem_append_left _ mem)
  · exact same id (List.mem_append_right _ mem)

/-- **An operation on panels** touches these only. -/
theorem frame_panels (owned : m.Owned) {p : Panels} {a : Anchors}
    (exchange : Exchange m.anchors m.panels.held a p.held) :
    m.Frame { m with panels := p, anchors := a } (· = .panels) := by
  obtain ⟨owned', same⟩ := owned.withPanels exchange
  refine ⟨owned', fun _ => .of_same rfl fun id mem => ?_, fun _ => .of_same rfl fun id mem => ?_,
    fun untouched => absurd rfl untouched⟩
  · exact same id (List.mem_append_left _ mem)
  · exact same id (List.mem_append_right _ mem)

end Owned

end Markers

end StepScript
