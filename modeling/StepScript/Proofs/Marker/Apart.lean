import Mathlib
import StepScript.Proofs.Marker.Discard
import StepScript.Proofs.Marker.Frame

/-!
# What an operation is not about

**One family each.** An operation on what is attached to lines is about one of the three families
(`Markers.Operation.touches`). Only lines that are inserted or deleted, and anchors that are
discarded, concern all of them.

**Discarded anchors.** An exchange leaves the anchors of every other owner where they are, whether
these are live or not (`Markers.Covered.still_breakpoints` and its like). So a family that an
operation is not about answers as before even if it holds anchors that were discarded
(`Markers.Covered.sameBreakpoints`, `Markers.Covered.sameHighlights`). `Markers.Frame` says this for
editors, where no anchor is discarded and each that is held is live.
-/

namespace StepScript.Markers

open Anchors

/-- The families that an operation is about. -/
def Operation.touches : Operation → Family → Prop
  | .toggle _ | .hover _ | .decorate _ | .checkDrift | .flush => (· = .breakpoints)
  | .highlight _ _ | .clearHighlights => (· = .highlights)
  | .setLinks _ | .showError _ _ _ | .showCode _ _ _ _ | .clearErrors | .clearPanels =>
    (· = .panels)
  | .insertLines _ _ | .deleteLines _ _ | .discard _ => fun _ => True

variable {m : Markers} {a : Anchors}

namespace Covered

/-! ## Anchors of the other families -/

/-- An operation on breakpoints leaves the anchors of highlights and panels where they are. -/
theorem still_breakpoints (covered : m.Covered) {b : Breakpoints}
    (exchange : Exchange m.anchors m.breakpoints.held a b.held) :
    ∀ id ∈ m.highlights.held ++ m.panels.held, a.resolve? id = m.anchors.resolve? id :=
  (exchange _ (covered.congr m.held_perm_breakpoints)).2.1

/-- An operation on highlights leaves the anchors of breakpoints and panels where they are. -/
theorem still_highlights (covered : m.Covered) {h : Highlights}
    (exchange : Exchange m.anchors m.highlights.held a h.held) :
    ∀ id ∈ m.breakpoints.held ++ m.panels.held, a.resolve? id = m.anchors.resolve? id :=
  (exchange _ (covered.congr m.held_perm_highlights)).2.1

/-- An operation on panels leaves the anchors of breakpoints and highlights where they are. -/
theorem still_panels (covered : m.Covered) {p : Panels}
    (exchange : Exchange m.anchors m.panels.held a p.held) :
    ∀ id ∈ m.breakpoints.held ++ m.highlights.held, a.resolve? id = m.anchors.resolve? id :=
  (exchange _ (covered.congr m.held_perm_panels)).2.1

/-! ## What the other families answer -/

variable {o : Operation}

/-- **Breakpoints and the hint** are the same after an operation that is not about them. -/
theorem sameBreakpoints (covered : m.Covered) (apart : ¬ o.touches .breakpoints) :
    m.SameBreakpoints (m.operate o) := by
  have onHighlights {h : Highlights} {a : Anchors}
      (exchange : Exchange m.anchors m.highlights.held a h.held) :
      m.SameBreakpoints { m with highlights := h, anchors := a } :=
    .of_same rfl fun id mem => covered.still_highlights exchange id (List.mem_append_left _ mem)
  have onPanels {p : Panels} {a : Anchors}
      (exchange : Exchange m.anchors m.panels.held a p.held) :
      m.SameBreakpoints { m with panels := p, anchors := a } :=
    .of_same rfl fun id mem => covered.still_panels exchange id (List.mem_append_left _ mem)
  cases o with
  | toggle | hover | decorate | checkDrift | flush => exact absurd rfl apart
  | highlight style lines => exact onHighlights (m.highlights.exchange_set _ style lines)
  | clearHighlights => exact onHighlights (m.highlights.exchange_clear _)
  | setLinks links => exact .of_same rfl fun _ _ => rfl
  | showError line data text => exact onPanels (m.panels.exchange_add _ line data text _)
  | showCode v line data text => exact onPanels (m.panels.exchange_add _ line data text _)
  | clearErrors => exact onPanels (m.panels.exchange_clearErrors _)
  | clearPanels => exact onPanels (m.panels.exchange_clear _)
  | insertLines | deleteLines | discard => exact absurd trivial apart

/-- **Highlights** are the same after an operation that is not about them. -/
theorem sameHighlights (covered : m.Covered) (apart : ¬ o.touches .highlights) :
    m.SameHighlights (m.operate o) := by
  have onBreakpoints {b : Breakpoints} {a : Anchors}
      (exchange : Exchange m.anchors m.breakpoints.held a b.held) :
      m.SameHighlights { m with breakpoints := b, anchors := a } :=
    .of_same rfl fun id mem => covered.still_breakpoints exchange id (List.mem_append_left _ mem)
  have onPanels {p : Panels} {a : Anchors}
      (exchange : Exchange m.anchors m.panels.held a p.held) :
      m.SameHighlights { m with panels := p, anchors := a } :=
    .of_same rfl fun id mem => covered.still_panels exchange id (List.mem_append_right _ mem)
  cases o with
  | toggle line => exact onBreakpoints (m.breakpoints.exchange_toggle _ line)
  | hover line => exact onBreakpoints (m.breakpoints.exchange_hover _ line)
  | decorate list => exact onBreakpoints (m.breakpoints.exchange_decorate _ list)
  -- the check and the flush change no anchor
  | checkDrift | flush => exact .of_same rfl fun _ _ => rfl
  | highlight | clearHighlights => exact absurd rfl apart
  | setLinks links => exact .of_same rfl fun _ _ => rfl
  | showError line data text => exact onPanels (m.panels.exchange_add _ line data text _)
  | showCode v line data text => exact onPanels (m.panels.exchange_add _ line data text _)
  | clearErrors => exact onPanels (m.panels.exchange_clearErrors _)
  | clearPanels => exact onPanels (m.panels.exchange_clear _)
  | insertLines | deleteLines | discard => exact absurd trivial apart

end Covered

end StepScript.Markers
