import Mathlib
import StepScript.Markers
import StepScript.Proofs.Marker.Exchange

/-!
# Every anchor has one owner

**Owners.** The anchors of a document are held by its breakpoint markers and the hint, by its
highlights and by its panels. `Markers.Owned` says that the live anchors are exactly those held,
and that none is held twice.

**One family at a time.** Each operation of a family exchanges the anchors that the family held for
those it holds afterwards (`Anchors.Exchange`), whatever the other families hold. So ownership is
kept by every operation, and with it come the frame conditions: an operation on one family leaves
every anchor of the others where it is (`Owned.withBreakpoints`, `Owned.withHighlights`,
`Owned.withPanels`).
-/

namespace StepScript

open Anchors

/-! ## Breakpoints -/

namespace Breakpoints

/-- The anchors of the markers. -/
def marked (b : Breakpoints) : List AnchorId := b.markers.map Marker.anchor

/-- The anchors of the markers and of the hint. -/
def held (b : Breakpoints) : List AnchorId := b.marked ++ b.hint.toList

variable (b : Breakpoints) (a : Anchors)

/-- The marker on a line is one of the markers. -/
theorem mem_of_markerAt? {line : Nat} {marker : Marker} (h : b.markerAt? a line = some marker) :
    marker ∈ b.markers :=
  List.mem_of_find?_eq_some h

/-- Without the hint only the markers hold anchors. -/
theorem held_clearHint : (b.clearHint a).1.held = b.marked := List.append_nil _

/-- Clearing the hint removes its anchor. -/
theorem exchange_clearHint : Exchange a b.held (b.clearHint a).2 (b.clearHint a).1.held := by
  rw [held_clearHint]
  exact (Exchange.removeAll b.hint.toList b.marked).congr List.perm_append_comm (List.Perm.refl _)

/-- The hint moves with the pointer, or goes. -/
theorem exchange_hover (line : Option Nat) :
    Exchange a b.held (b.hover a line).2 (b.hover a line).1.held := by
  have cleared := b.exchange_clearHint a
  unfold hover
  cases line with
  | none => exact cleared
  | some line =>
    simp only
    split
    · exact cleared
    · refine cleared.trans (((Exchange.create (.ofLine line)).frame b.marked).congr ?_ ?_)
      · exact List.Perm.of_eq rfl
      · exact List.Perm.of_eq rfl

/-- Adding a marker adds its anchor. -/
theorem exchange_addMarker (state : MarkerState) (s : Breakpoints × Anchors) (x : Breakpoint) :
    Exchange s.2 s.1.held (addMarker state s x).2 (addMarker state s x).1.held := by
  refine ((Exchange.create (.ofLine x.line)).frame s.1.held).congr ?_ ?_
  · exact List.Perm.of_eq (List.append_nil _).symm
  · simp only [held, marked, addMarker, List.map_append, List.map_singleton, List.append_assoc]
    exact List.perm_append_comm.append_left _

/-- **What a toggle does.** The hint goes; then the marker on the line goes, or, if there is none,
an unverified one is added. A report is pending. -/
theorem toggle_cases (line : Nat) :
    (∃ marker, b.markerAt? (b.clearHint a).2 line = some marker ∧
      b.toggle a line = (false, ⟨b.markers.erase marker, none, true⟩,
        (b.clearHint a).2.remove marker.anchor)) ∨
    (b.markerAt? (b.clearHint a).2 line = none ∧
      b.toggle a line = (true, { (addMarker .unverified (b.clearHint a) ⟨line, true⟩).1 with
        pending := true }, (addMarker .unverified (b.clearHint a) ⟨line, true⟩).2)) := by
  cases found : b.markerAt? (b.clearHint a).2 line with
  | some marker =>
    refine .inl ⟨marker, rfl, ?_⟩
    have found' : (b.clearHint a).1.markerAt? (b.clearHint a).2 line = some marker := found
    unfold toggle
    simp only [found']
    rfl
  | none =>
    refine .inr ⟨rfl, ?_⟩
    have found' : (b.clearHint a).1.markerAt? (b.clearHint a).2 line = none := found
    unfold toggle
    simp only [found']

/-- Taking a marker out takes its anchor out. -/
theorem marked_erase {marker : Marker} (mem : marker ∈ b.markers) :
    b.marked.Perm (marker.anchor :: (b.markers.erase marker).map Marker.anchor) :=
  (List.perm_cons_erase mem).map Marker.anchor

/-- A toggle adds or removes one anchor, besides that of the hint. -/
theorem exchange_toggle (line : Nat) :
    Exchange a b.held (b.toggle a line).2.2 (b.toggle a line).2.1.held := by
  have cleared := b.exchange_clearHint a
  rcases b.toggle_cases a line with ⟨marker, found, toggled⟩ | ⟨-, toggled⟩
  · rw [toggled]
    have mem := b.mem_of_markerAt? _ found
    refine cleared.trans ((Exchange.removeAll [marker.anchor]
      ((b.markers.erase marker).map Marker.anchor)).congr ?_ ?_)
    · rw [held_clearHint]
      exact b.marked_erase mem
    · rw [held, Option.toList_none, List.append_nil]
      exact List.Perm.refl _
  · rw [toggled]
    exact cleared.trans (exchange_addMarker .unverified (b.clearHint a) ⟨line, true⟩)

/-- The host's list takes the place of all markers. -/
theorem exchange_decorate (list : List Breakpoint) :
    Exchange a b.held (b.decorate a list).2 (b.decorate a list).1.held := by
  have removed : Exchange a b.held (a.removeAll b.marked) (held ⟨[], b.hint, false⟩) :=
    Exchange.removeAll b.marked _
  exact removed.trans (Exchange.foldl (exchange_addMarker .verified) list
    (⟨[], b.hint, false⟩, a.removeAll b.marked))

/-- **What the check after an edit does** if the anchors of all markers are live: it drops none.
Either a verified marker has moved, and all are seen where they are now, or none has, and nothing
changes. -/
theorem checkDrift_cases (live : ∀ k ∈ b.markers, k.anchor ∈ a.ids) :
    b.checkDrift a =
        (some (canonical ⟨b.markers.map (look a), b.hint, false⟩ a),
          ⟨b.markers.map (look a), b.hint, false⟩) ∨
      (∀ k ∈ b.markers, hasDrifted a k = false) ∧ b.checkDrift a = (none, b) := by
  have all : (b.markers.filter fun k => (a.resolve? k.anchor).isSome) = b.markers :=
    List.filter_eq_self.mpr fun k mem => (a.isSome_resolve?).mpr (live k mem)
  unfold checkDrift
  simp only [all]
  split_ifs with drifted
  · exact .inl rfl
  · refine .inr ⟨fun k mem => ?_, rfl⟩
    rw [List.any_eq_true] at drifted
    exact Bool.eq_false_iff.mpr fun has => drifted ⟨k, mem, has⟩

/-- The check after an edit drops no marker whose anchor is live. -/
theorem held_checkDrift (live : ∀ k ∈ b.markers, k.anchor ∈ a.ids) :
    (b.checkDrift a).2.held = b.held := by
  rcases b.checkDrift_cases a live with drifted | ⟨-, still⟩
  · rw [drifted, held, marked, List.map_map]
    rfl
  · rw [still]

end Breakpoints

/-! ## Highlights -/

namespace Highlights

/-- The anchors of the highlights. -/
def held (h : Highlights) : List AnchorId := h.entries.map Highlight.anchor

variable (h : Highlights) (a : Anchors)

/-- Adding a highlight adds its anchor. -/
theorem exchange_add (style : Text) (s : Highlights × Anchors) (line : Nat) :
    Exchange s.2 s.1.held (add style s line).2 (add style s line).1.held := by
  refine ((Exchange.create (.ofLine line)).frame s.1.held).congr ?_ ?_
  · exact List.Perm.of_eq (List.append_nil _).symm
  · simp only [held, add, List.map_append, List.map_singleton]
    exact List.Perm.refl _

/-- What stays when a class is set, in the store without the anchors of what gives way. -/
def release (style : Text) (lines : List Nat) : Highlights × Anchors :=
  (⟨h.entries.filter fun e => !givesWay a style lines e⟩,
    a.removeAll ((h.entries.filter (givesWay a style lines)).map Highlight.anchor))

/-- **What setting a class does.** What gives way is removed, and then one highlight is added for
each line, unless the class is empty. -/
theorem set_eq_foldl (style : Text) (lines : List Nat) : h.set a style lines =
    (if style = [] then [] else distinct lines).foldl (add style) (h.release a style lines) := by
  unfold set
  rw [List.partition_eq_filter_filter]
  simp only
  split
  · rfl
  · rfl

/-- What gives way takes its anchors along. -/
theorem exchange_release (style : Text) (lines : List Nat) :
    Exchange a h.held (h.release a style lines).2 (h.release a style lines).1.held := by
  have parts := (List.filter_append_perm (givesWay a style lines) h.entries).map Highlight.anchor
  rw [List.map_append] at parts
  exact (Exchange.removeAll _ _).congr parts.symm (List.Perm.refl _)

/-- Setting a class removes the anchors of what gives way and adds one for each line. -/
theorem exchange_set (style : Text) (lines : List Nat) :
    Exchange a h.held (h.set a style lines).2 (h.set a style lines).1.held := by
  rw [set_eq_foldl]
  exact (h.exchange_release a style lines).trans (Exchange.foldl (exchange_add style) _ _)

/-- Without highlights no anchors are held. -/
theorem exchange_clear : Exchange a h.held (h.clear a).2 (h.clear a).1.held := by
  refine (Exchange.removeAll h.held []).congr ?_ (List.Perm.refl _)
  exact List.Perm.of_eq (List.append_nil _).symm

end Highlights

/-! ## Panels -/

namespace Panels

/-- The anchors of the panels. -/
def held (p : Panels) : List AnchorId := p.list.map Panel.anchor

variable (p : Panels) (a : Anchors)

/-- Adding a panel adds its anchor. -/
theorem exchange_add (line : Nat) (data text : Text) (content : PanelContent) :
    Exchange a p.held (p.add a line data text content).2
      (p.add a line data text content).1.held := by
  refine ((Exchange.create (.ofLine line)).frame p.held).congr ?_ ?_
  · exact List.Perm.of_eq (List.append_nil _).symm
  · simp only [held, add, List.map_append, List.map_singleton]
    exact List.Perm.refl _

/-- Removing the error panels removes their anchors. -/
theorem exchange_clearErrors : Exchange a p.held (p.clearErrors a).2 (p.clearErrors a).1.held := by
  have parts :=
    (List.filter_append_perm (fun x : Panel => x.content.isError) p.list).map Panel.anchor
  rw [List.map_append] at parts
  unfold clearErrors
  rw [List.partition_eq_filter_filter]
  exact (Exchange.removeAll _ _).congr parts.symm (List.Perm.refl _)

/-- Without panels no anchors are held. -/
theorem exchange_clear : Exchange a p.held (p.clear a).2 (p.clear a).1.held := by
  refine (Exchange.removeAll p.held []).congr ?_ (List.Perm.refl _)
  exact List.Perm.of_eq (List.append_nil _).symm

end Panels

/-! ## All families together -/

namespace Markers

/-- The anchors of all families. -/
def held (m : Markers) : List AnchorId :=
  m.breakpoints.held ++ (m.highlights.held ++ m.panels.held)

/-- The live anchors are those that some family holds, and none is held twice. -/
def Owned (m : Markers) : Prop := m.anchors.Shared m.held []

variable {m : Markers}

/-- Nothing attached, nothing held. -/
theorem owned_empty : empty.Owned := ⟨List.Perm.refl _, List.nodup_nil, by simp [empty]⟩

/-- The anchors of breakpoints come first. -/
theorem held_perm_breakpoints (m : Markers) :
    (m.held ++ []).Perm (m.breakpoints.held ++ (m.highlights.held ++ m.panels.held)) := by
  rw [List.append_nil]
  exact List.Perm.refl _

/-- The anchors of highlights may come first. -/
theorem held_perm_highlights (m : Markers) :
    (m.held ++ []).Perm (m.highlights.held ++ (m.breakpoints.held ++ m.panels.held)) := by
  rw [List.append_nil]
  exact List.perm_append_comm_assoc _ _ _

/-- The anchors of panels may come first. -/
theorem held_perm_panels (m : Markers) :
    (m.held ++ []).Perm (m.panels.held ++ (m.breakpoints.held ++ m.highlights.held)) := by
  rw [List.append_nil, held, ← List.append_assoc]
  exact List.perm_append_comm

/-- Breakpoints hold theirs, the other two families the others. -/
theorem owned_iff_breakpoints :
    m.Owned ↔ m.anchors.Shared m.breakpoints.held (m.highlights.held ++ m.panels.held) :=
  ⟨fun h => h.congr m.held_perm_breakpoints, fun h => h.congr m.held_perm_breakpoints.symm⟩

/-- Highlights hold theirs, the other two families the others. -/
theorem owned_iff_highlights :
    m.Owned ↔ m.anchors.Shared m.highlights.held (m.breakpoints.held ++ m.panels.held) :=
  ⟨fun h => h.congr m.held_perm_highlights, fun h => h.congr m.held_perm_highlights.symm⟩

/-- Panels hold theirs, the other two families the others. -/
theorem owned_iff_panels :
    m.Owned ↔ m.anchors.Shared m.panels.held (m.breakpoints.held ++ m.highlights.held) :=
  ⟨fun h => h.congr m.held_perm_panels, fun h => h.congr m.held_perm_panels.symm⟩

namespace Owned

/-- **An operation on breakpoints** keeps ownership and leaves highlights and panels in place. -/
theorem withBreakpoints (owned : m.Owned) {b : Breakpoints} {a : Anchors}
    (exchange : Exchange m.anchors m.breakpoints.held a b.held) :
    Owned { m with breakpoints := b, anchors := a } ∧
      ∀ id ∈ m.highlights.held ++ m.panels.held, a.resolve? id = m.anchors.resolve? id := by
  obtain ⟨shared, same⟩ := exchange.shared (owned_iff_breakpoints.mp owned)
  exact ⟨owned_iff_breakpoints.mpr shared, same⟩

/-- **An operation on highlights** keeps ownership and leaves breakpoints and panels in place. -/
theorem withHighlights (owned : m.Owned) {h : Highlights} {a : Anchors}
    (exchange : Exchange m.anchors m.highlights.held a h.held) :
    Owned { m with highlights := h, anchors := a } ∧
      ∀ id ∈ m.breakpoints.held ++ m.panels.held, a.resolve? id = m.anchors.resolve? id := by
  obtain ⟨shared, same⟩ := exchange.shared (owned_iff_highlights.mp owned)
  exact ⟨owned_iff_highlights.mpr shared, same⟩

/-- **An operation on panels** keeps ownership and leaves breakpoints and highlights in place. -/
theorem withPanels (owned : m.Owned) {p : Panels} {a : Anchors}
    (exchange : Exchange m.anchors m.panels.held a p.held) :
    Owned { m with panels := p, anchors := a } ∧
      ∀ id ∈ m.breakpoints.held ++ m.highlights.held, a.resolve? id = m.anchors.resolve? id := by
  obtain ⟨shared, same⟩ := exchange.shared (owned_iff_panels.mp owned)
  exact ⟨owned_iff_panels.mpr shared, same⟩

/-- The anchors of the markers are live. -/
theorem mem_ids_of_mem_markers (owned : m.Owned) {k : Marker} (mem : k ∈ m.breakpoints.markers) :
    k.anchor ∈ m.anchors.ids :=
  (owned_iff_breakpoints.mp owned).mem_ids_of_held
    (List.mem_append_left _ (List.mem_map_of_mem mem))

/-- An edit changes no owner. -/
theorem replaceLines (owned : m.Owned) (start deleted inserted : Nat) :
    (m.replaceLines start deleted inserted).Owned := by
  unfold Markers.replaceLines
  simp only
  split_ifs
  · exact Shared.mapRanges owned _
  · exact Shared.mapRanges owned _
  · exact owned

/-- The check after an edit changes no owner: it drops no marker, as the anchors of all are live. -/
theorem checkDrift (owned : m.Owned) : m.checkDrift.2.Owned := by
  have shared := owned_iff_breakpoints.mp owned
  rw [← m.breakpoints.held_checkDrift m.anchors fun k mem => owned.mem_ids_of_mem_markers mem]
    at shared
  exact owned_iff_breakpoints.mpr shared

end Owned

end Markers

end StepScript
