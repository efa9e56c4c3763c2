import Mathlib
import StepScript.Proofs.Marker.Ownership

/-!
# Anchors discarded behind their owner's back

**Operations.** The three families and the store may be worked on in any order
(`Markers.Operation`). Lines may be inserted and deleted, and an anchor may be discarded without its
owner being told. Then the owner still holds the anchor, but it is not live any more.

**What is left.** So the live anchors are no longer all that are held. But no operation lets a live
anchor go that it does not remove, and none removes one that it does not hold: every live anchor
still has exactly one owner (`Markers.count_held_of_live`). The operations of the families are the
exchanges that they are without discarded anchors; only the check after an edit drops markers.
-/

namespace StepScript

open Anchors

/-! ## The store -/

namespace Anchors.Covered

variable {a : Anchors} {held others : List AnchorId}

/-- An owner may drop anchors that are not live. -/
theorem drop (h : a.Covered held others) {kept : List AnchorId} (fewer : kept.Sublist held)
    (live : ∀ id ∈ held, id ∈ a.ids → id ∈ kept) : a.Covered kept others := by
  have fewer_all : (kept ++ others).Sublist (held ++ others) := fewer.append_right others
  refine ⟨fun id mem => ?_, h.nodup.sublist fewer_all, h.nodup_ids, fun id mem => ?_⟩
  · rcases List.mem_append.mp (h.live id mem) with is_held | other
    · exact List.mem_append_left _ (live id is_held mem)
    · exact List.mem_append_right _ other
  · exact h.le_last id (fewer_all.subset mem)

/-- An anchor may be discarded. -/
theorem discard (h : a.Covered held others) (gone : AnchorId) :
    (a.remove gone).Covered held others := by
  refine ⟨fun id mem => ?_, h.nodup, ?_, h.le_last⟩
  · rw [ids_remove] at mem
    exact h.live id (List.mem_of_mem_filter mem)
  · rw [ids_remove]
    exact h.nodup_ids.filter _

/-- Moving all ranges changes no owner. -/
theorem mapRanges (h : a.Covered held others) (f : LineRange → LineRange) :
    (a.mapRanges f).Covered held others := by
  refine ⟨fun id mem => ?_, h.nodup, ?_, h.le_last⟩
  · rw [ids_mapRanges] at mem
    exact h.live id mem
  · rw [ids_mapRanges]
    exact h.nodup_ids

end Anchors.Covered

namespace Breakpoints

variable (b : Breakpoints) (a : Anchors)

/-- The markers whose anchors are live. -/
def liveMarkers : List Marker := b.markers.filter fun k => (a.resolve? k.anchor).isSome

/-- The check after an edit keeps the anchors of the live markers, and of the hint. -/
theorem held_checkDrift_live :
    (b.checkDrift a).2.held = (b.liveMarkers a).map Marker.anchor ++ b.hint.toList := by
  unfold checkDrift
  simp only
  split_ifs with drifted
  · rw [held, marked, List.map_map]
    rfl
  · rfl

end Breakpoints

namespace Markers

variable {m : Markers}

/-! ## Operations -/

/-- What is done to what is attached to lines, and to the store. -/
inductive Operation where
  | toggle (line : Nat)
  | hover (line : Option Nat)
  | decorate (list : List Breakpoint)
  | checkDrift
  | flush
  | highlight (style : Text) (lines : List Nat)
  | clearHighlights
  | setLinks (links : List ErrorLink)
  | showError (line : Nat) (data text : Text)
  | showCode (v : Vocabulary) (line : Nat) (data text : Text)
  | clearErrors
  | clearPanels
  | insertLines (before count : Nat)
  | deleteLines (start count : Nat)
  /-- An anchor is discarded, and its owner is not told. -/
  | discard (id : AnchorId)

/-- The markers after an operation. -/
def operate (m : Markers) : Operation → Markers
  | .toggle line => (m.toggle line).2
  | .hover line => m.hover line
  | .decorate list => m.decorate list
  | .checkDrift => m.checkDrift.2
  | .flush => m.flush.2
  | .highlight style lines => m.highlight style lines
  | .clearHighlights => m.clearHighlights
  | .setLinks links => m.setLinks links
  | .showError line data text => m.showError line data text
  | .showCode v line data text => m.showCode v line data text
  | .clearErrors => m.clearErrors
  | .clearPanels => m.clearPanels
  | .insertLines before count => { m with anchors := m.anchors.insertLines before count }
  | .deleteLines start count => { m with anchors := m.anchors.deleteLines start count }
  | .discard id => { m with anchors := m.anchors.remove id }

/-- Every live anchor is held by some family, and no anchor is held twice. -/
def Covered (m : Markers) : Prop := m.anchors.Covered m.held []

namespace Covered

/-- Nothing attached, nothing held. -/
theorem empty : Markers.empty.Covered := owned_empty.covered

/-- An operation on breakpoints. -/
theorem withBreakpoints (covered : m.Covered) {b : Breakpoints} {a : Anchors}
    (exchange : Exchange m.anchors m.breakpoints.held a b.held) :
    Covered { m with breakpoints := b, anchors := a } :=
  (exchange _ (covered.congr m.held_perm_breakpoints)).1.congr
    (held_perm_breakpoints { m with breakpoints := b, anchors := a }).symm

/-- An operation on highlights. -/
theorem withHighlights (covered : m.Covered) {h : Highlights} {a : Anchors}
    (exchange : Exchange m.anchors m.highlights.held a h.held) :
    Covered { m with highlights := h, anchors := a } :=
  (exchange _ (covered.congr m.held_perm_highlights)).1.congr
    (held_perm_highlights { m with highlights := h, anchors := a }).symm

/-- An operation on panels. -/
theorem withPanels (covered : m.Covered) {p : Panels} {a : Anchors}
    (exchange : Exchange m.anchors m.panels.held a p.held) :
    Covered { m with panels := p, anchors := a } :=
  (exchange _ (covered.congr m.held_perm_panels)).1.congr
    (held_perm_panels { m with panels := p, anchors := a }).symm

/-- The check after an edit drops only markers whose anchors are not live. -/
theorem checkDrift (covered : m.Covered) : m.checkDrift.2.Covered := by
  have held := m.breakpoints.held_checkDrift_live m.anchors
  refine Anchors.Covered.congr ?_ (held_perm_breakpoints m.checkDrift.2).symm
  refine Anchors.Covered.drop (covered.congr m.held_perm_breakpoints) ?_ fun id mem live => ?_
  · show (m.breakpoints.checkDrift m.anchors).2.held.Sublist m.breakpoints.held
    rw [held]
    exact (List.filter_sublist.map Marker.anchor).append_right _
  · show id ∈ (m.breakpoints.checkDrift m.anchors).2.held
    rw [held]
    rcases List.mem_append.mp mem with marked | hint
    · obtain ⟨k, mem_k, rfl⟩ := List.mem_map.mp marked
      refine List.mem_append_left _ (List.mem_map_of_mem (List.mem_filter.mpr ⟨mem_k, ?_⟩))
      exact (isSome_resolve? m.anchors).mpr live
    · exact List.mem_append_right _ hint

/-- A flush changes no owner. -/
theorem flush (covered : m.Covered) : m.flush.2.Covered := by
  unfold Markers.flush Breakpoints.flush
  by_cases pending : m.breakpoints.pending = true
  · rw [if_pos pending]
    exact covered
  · rw [if_neg pending]
    exact covered

/-- **Every operation** leaves each live anchor with one owner. -/
theorem operate (covered : m.Covered) (operation : Operation) : (m.operate operation).Covered := by
  cases operation with
  | toggle line => exact covered.withBreakpoints (m.breakpoints.exchange_toggle m.anchors line)
  | hover line => exact covered.withBreakpoints (m.breakpoints.exchange_hover m.anchors line)
  | decorate list => exact covered.withBreakpoints (m.breakpoints.exchange_decorate m.anchors list)
  | checkDrift => exact covered.checkDrift
  | flush => exact covered.flush
  | highlight style lines =>
    exact covered.withHighlights (m.highlights.exchange_set m.anchors style lines)
  | clearHighlights => exact covered.withHighlights (m.highlights.exchange_clear m.anchors)
  | setLinks links => exact covered
  | showError line data text =>
    exact covered.withPanels (m.panels.exchange_add m.anchors line data text _)
  | showCode v line data text =>
    exact covered.withPanels (m.panels.exchange_add m.anchors line data text _)
  | clearErrors => exact covered.withPanels (m.panels.exchange_clearErrors m.anchors)
  | clearPanels => exact covered.withPanels (m.panels.exchange_clear m.anchors)
  | insertLines before count => exact Anchors.Covered.mapRanges covered _
  | deleteLines start count => exact Anchors.Covered.mapRanges covered _
  | discard id => exact Anchors.Covered.discard covered id

/-- Any operations do. -/
theorem run (covered : m.Covered) (operations : List Operation) :
    (operations.foldl Markers.operate m).Covered := by
  induction operations generalizing m with
  | nil => exact covered
  | cons operation operations ih => exact ih (covered.operate operation)

/-- **One owner**: a live anchor is held once. -/
theorem count_held (covered : m.Covered) {id : AnchorId} (live : id ∈ m.anchors.ids) :
    m.held.count id = 1 := by
  have mem : id ∈ m.held ++ [] := covered.live id live
  have nodup : (m.held ++ []).Nodup := covered.nodup
  rw [List.append_nil] at mem nodup
  exact List.count_eq_one_of_mem nodup mem

end Covered

end Markers

end StepScript
