import Mathlib
import StepScript.Proofs.Marker.Ownership
import StepScript.Proofs.Marker.Record

/-!
# The host's record agrees with the markers

**When it can be asked.** A host learns of changes by reports, so while one is pending its record
may be old. It is also not told where a marker moves that it has not confirmed. The markers are
settled if neither applies: nothing is pending, and all markers are verified
(`Breakpoints.Settled`).

**The invariant.** `Markers.InStep` says three things of the markers and a record. Every anchor has
one owner. A verified marker is where it was last seen. And if the markers are settled, the record
lists the markers where they were last seen. The last part does not mention anchors at all: what
moves an anchor without a report would break the second part. Together the parts give the record as
the list that the editor itself would report (`InStep.eq_canonical`).

**What keeps it.** There is one lemma for each operation. An operation that leaves the markers and
their anchors alone keeps everything (`InStep.of_same`), a toggle makes a report pending, and the
host's own list, a flush and the check after an edit set the record and the markers at once.
-/

namespace StepScript

open Anchors HostRecord

/-- The breakpoint where a marker was last seen. -/
def Marker.breakpoint (k : Marker) : Breakpoint := ⟨k.seen.startLine, k.enabled⟩

namespace Breakpoints

/-- The host has confirmed all markers. -/
def Verified (b : Breakpoints) : Prop := ∀ k ∈ b.markers, k.state = .verified

/-- The host has been told all that it is told. -/
def Settled (b : Breakpoints) : Prop := b.pending = false ∧ b.Verified

/-- Verified markers are where they were last seen. -/
def Seen (b : Breakpoints) (a : Anchors) : Prop :=
  ∀ k ∈ b.markers, k.state = .verified → a.resolve? k.anchor = some k.seen

variable {b : Breakpoints} {a : Anchors} {others : List AnchorId}

/-- If all markers are verified, the reported list is that of where they were seen. -/
theorem canonical_of_seen (seen : b.Seen a) (verified : b.Verified) :
    b.canonical a = ofList (b.markers.map Marker.breakpoint) := by
  rw [canonical_eq_ofList, placed, ← List.filterMap_eq_map]
  congr 1
  refine List.filterMap_congr fun k mem => ?_
  rw [line?, seen k mem (verified k mem)]
  rfl

/-! ## The hint -/

/-- Clearing the hint leaves the anchors of the markers where they are. -/
theorem resolve?_clearHint (covered : a.Covered b.held others) {k : Marker}
    (mem : k ∈ b.markers) : (b.clearHint a).2.resolve? k.anchor = a.resolve? k.anchor := by
  have parts := List.nodup_append.mp (List.nodup_append.mp covered.nodup).1
  refine a.resolve?_removeAll_of_not_mem fun hint => ?_
  exact parts.2.2 k.anchor (List.mem_map_of_mem mem) k.anchor hint rfl

/-- Creating an anchor after that leaves them there, too. -/
theorem resolve?_create_clearHint (covered : a.Covered b.held others) {k : Marker}
    (mem : k ∈ b.markers) (range : LineRange) :
    ((b.clearHint a).2.create range).2.resolve? k.anchor = a.resolve? k.anchor := by
  have cleared := (b.exchange_clearHint a others covered).1
  rw [held_clearHint] at cleared
  rw [resolve?_create_of_ne, resolve?_clearHint covered mem]
  exact cleared.ne_next (List.mem_append_left _ (List.mem_map_of_mem mem))

/-- Moving the hint changes no marker. -/
theorem markers_hover (line : Option Nat) :
    (b.hover a line).1.markers = b.markers ∧ (b.hover a line).1.pending = b.pending := by
  unfold hover
  cases line with
  | none => exact ⟨rfl, rfl⟩
  | some line =>
    simp only
    split_ifs <;> exact ⟨rfl, rfl⟩

/-- Moving the hint leaves the anchors of the markers where they are. -/
theorem resolve?_hover (covered : a.Covered b.held others) (line : Option Nat) {k : Marker}
    (mem : k ∈ b.markers) : (b.hover a line).2.resolve? k.anchor = a.resolve? k.anchor := by
  have cleared := resolve?_clearHint covered mem
  unfold hover
  cases line with
  | none => exact cleared
  | some line =>
    simp only
    split_ifs
    · exact cleared
    · exact resolve?_create_clearHint covered mem _

/-! ## Toggles -/

/-- After a toggle a report is pending. -/
theorem pending_toggle (line : Nat) : (b.toggle a line).2.1.pending = true := by
  rcases b.toggle_cases a line with ⟨marker, -, toggled⟩ | ⟨-, toggled⟩
  · rw [toggled]
  · rw [toggled]

/-- Removing a marker leaves the anchors of the others where they are. -/
theorem resolve?_remove_marker (covered : a.Covered b.held others) {marker k : Marker}
    (found : marker ∈ b.markers) (mem : k ∈ b.markers.erase marker) :
    ((b.clearHint a).2.remove marker.anchor).resolve? k.anchor = a.resolve? k.anchor := by
  have apart : k.anchor ≠ marker.anchor := by
    have held : b.held.Nodup := (List.nodup_append.mp covered.nodup).1
    have split := (b.marked_erase found).nodup_iff.mp (List.nodup_append.mp held).1
    exact fun eq => (List.nodup_cons.mp split).1 (eq ▸ List.mem_map_of_mem mem)
  exact (resolve?_remove_of_ne _ apart).trans
    (resolve?_clearHint covered (List.mem_of_mem_erase mem))

/-- A toggle leaves the verified markers that remain where they were seen. -/
theorem Seen.toggle (seen : b.Seen a) (covered : a.Covered b.held others) (line : Nat) :
    (b.toggle a line).2.1.Seen (b.toggle a line).2.2 := by
  rcases b.toggle_cases a line with ⟨marker, found, toggled⟩ | ⟨-, toggled⟩
  · rw [toggled]
    intro k mem verified
    have mem_b : k ∈ b.markers := List.mem_of_mem_erase mem
    exact (resolve?_remove_marker covered (b.mem_of_markerAt? _ found) mem).trans
      (seen k mem_b verified)
  · rw [toggled]
    intro k mem verified
    rcases List.mem_append.mp mem with old | new
    · exact (resolve?_create_clearHint covered old _).trans (seen k old verified)
    · rw [List.mem_singleton.mp new] at verified
      exact nomatch verified

/-! ## The host's list -/

/-- The markers are those of a list that the host has sent, and nothing has happened since. -/
structure Pushed (b : Breakpoints) (a : Anchors) (list : List Breakpoint) : Prop where
  pending : b.pending = false
  verified : b.Verified
  seen : ∀ k ∈ b.markers, a.resolve? k.anchor = some k.seen
  breakpoints : b.markers.map Marker.breakpoint = list

/-- Adding a verified marker adds one entry to the list. -/
theorem Pushed.addMarker {s : Breakpoints × Anchors} {list : List Breakpoint}
    (pushed : s.1.Pushed s.2 list) (issued : s.2.Issued) (x : Breakpoint) :
    (addMarker .verified s x).1.Pushed (addMarker .verified s x).2 (list ++ [x]) := by
  refine ⟨pushed.pending, fun k mem => ?_, fun k mem => ?_, ?_⟩
  · rcases List.mem_append.mp mem with old | new
    · exact pushed.verified k old
    · rw [List.mem_singleton.mp new]
  · rcases List.mem_append.mp mem with old | new
    · have live : k.anchor ∈ s.2.ids := by
        rw [← isSome_resolve?, pushed.seen k old]
        rfl
      exact (resolve?_create_of_ne _ _ (issued.ne_next live)).trans (pushed.seen k old)
    · rw [List.mem_singleton.mp new]
      exact resolve?_create_self _ _ issued.new
  · change (s.1.markers ++ [_]).map Marker.breakpoint = list ++ [x]
    rw [List.map_append, pushed.breakpoints]
    rfl

/-- Adding verified markers adds the whole list. -/
theorem Pushed.addMarkers (s : Breakpoints × Anchors) {list : List Breakpoint}
    (pushed : s.1.Pushed s.2 list) (issued : s.2.Issued) (more : List Breakpoint) :
    (more.foldl (Breakpoints.addMarker .verified) s).1.Pushed
      (more.foldl (Breakpoints.addMarker .verified) s).2 (list ++ more) := by
  induction more generalizing s list with
  | nil => rwa [List.append_nil]
  | cons x more ih =>
    rw [List.foldl_cons, List.append_cons]
    exact ih _ (pushed.addMarker issued x) (issued.create (.ofLine x.line))

/-- After the host's list has come, the markers are those of the list, whatever they were. -/
theorem pushed_decorate (issued : a.Issued) (list : List Breakpoint) :
    (b.decorate a list).1.Pushed (b.decorate a list).2 list := by
  have none : Pushed ⟨[], b.hint, false⟩ (a.removeAll b.marked) [] :=
    ⟨rfl, by simp [Verified], by simp, rfl⟩
  exact none.addMarkers (⟨[], b.hint, false⟩, a.removeAll b.marked)
    (issued.removeAll b.marked) list

/-! ## The check after an edit -/

/-- Looking at a live marker, one sees it where it is. -/
theorem seen_look (live : ∀ k ∈ b.markers, k.anchor ∈ a.ids) :
    Seen ⟨b.markers.map (look a), b.hint, false⟩ a := by
  intro k mem _
  obtain ⟨j, mem_j, rfl⟩ := List.mem_map.mp mem
  obtain ⟨range, found⟩ := Option.isSome_iff_exists.mp (a.isSome_resolve?.mpr (live j mem_j))
  change a.resolve? j.anchor = some ((a.resolve? j.anchor).getD j.seen)
  rw [found, Option.getD_some]

/-- If no marker has drifted, the verified ones are where they were seen. -/
theorem seen_of_not_drifted (still : ∀ k ∈ b.markers, hasDrifted a k = false) : b.Seen a := by
  intro k mem verified
  by_contra moved
  have drifted : hasDrifted a k = true := by simp [hasDrifted, verified, moved]
  exact absurd (drifted.symm.trans (still k mem)) (by decide)

end Breakpoints

namespace Markers

/-- **The invariant**: every anchor has one owner, verified markers are where they were last seen,
and if the markers are settled, the record lists them where they were last seen. -/
structure InStep (m : Markers) (record : HostRecord) : Prop where
  owned : m.Owned
  seen : m.breakpoints.Seen m.anchors
  agree : m.breakpoints.Settled → record = ofList (m.breakpoints.markers.map Marker.breakpoint)

namespace InStep

variable {m m' : Markers} {record : HostRecord}

/-- Without markers and with an empty record. -/
theorem empty : Markers.empty.InStep [] :=
  ⟨owned_empty, fun _ mem => absurd mem List.not_mem_nil, fun _ => rfl⟩

/-- If the markers are settled, the record is what the editor would report. -/
theorem eq_canonical (h : m.InStep record) (settled : m.breakpoints.Settled) :
    record = m.canonical :=
  (h.agree settled).trans (Breakpoints.canonical_of_seen h.seen settled.2).symm

/-- The anchors of breakpoints are shared with the other families. -/
theorem shared (h : m.InStep record) :
    m.anchors.Shared m.breakpoints.held (m.highlights.held ++ m.panels.held) :=
  owned_iff_breakpoints.mp h.owned

/-- **Frame.** What leaves the markers and their anchors alone keeps the invariant. -/
theorem of_same (h : m.InStep record) (owned : m'.Owned)
    (markers : m'.breakpoints.markers = m.breakpoints.markers)
    (pending : m'.breakpoints.pending = m.breakpoints.pending)
    (still : ∀ k ∈ m.breakpoints.markers,
      m'.anchors.resolve? k.anchor = m.anchors.resolve? k.anchor) :
    m'.InStep record := by
  refine ⟨owned, fun k mem verified => ?_, fun settled => ?_⟩
  · rw [markers] at mem
    exact (still k mem).trans (h.seen k mem verified)
  · rw [markers]
    refine h.agree ⟨pending ▸ settled.1, fun k mem => settled.2 k ?_⟩
    rw [markers]
    exact mem

/-- An operation on highlights keeps the invariant. -/
theorem onHighlights (h : m.InStep record) {hs : Highlights} {a : Anchors}
    (exchange : Exchange m.anchors m.highlights.held a hs.held) :
    InStep { m with highlights := hs, anchors := a } record := by
  obtain ⟨owned, still⟩ := h.owned.withHighlights exchange
  exact h.of_same owned rfl rfl fun k mem =>
    still _ (List.mem_append_left _ (List.mem_append_left _ (List.mem_map_of_mem mem)))

/-- An operation on panels keeps the invariant. -/
theorem onPanels (h : m.InStep record) {p : Panels} {a : Anchors}
    (exchange : Exchange m.anchors m.panels.held a p.held) :
    InStep { m with panels := p, anchors := a } record := by
  obtain ⟨owned, still⟩ := h.owned.withPanels exchange
  exact h.of_same owned rfl rfl fun k mem =>
    still _ (List.mem_append_left _ (List.mem_append_left _ (List.mem_map_of_mem mem)))

/-- Moving the hint keeps the invariant. -/
theorem hover (h : m.InStep record) (line : Option Nat) : (m.hover line).InStep record :=
  h.of_same (h.owned.withBreakpoints (m.breakpoints.exchange_hover m.anchors line)).1
    (Breakpoints.markers_hover line).1 (Breakpoints.markers_hover line).2
    fun _ mem => Breakpoints.resolve?_hover h.shared.covered line mem

/-- A toggle keeps the invariant: a report is pending after it. -/
theorem toggle (h : m.InStep record) (line : Nat) : (m.toggle line).2.InStep record := by
  refine ⟨?_, h.seen.toggle h.shared.covered line, fun settled => ?_⟩
  · exact (h.owned.withBreakpoints (m.breakpoints.exchange_toggle m.anchors line)).1
  · exact absurd (settled.1.symm.trans (Breakpoints.pending_toggle line)) Bool.false_ne_true

/-- The host's list keeps the invariant, if the host enters it. -/
theorem decorate (h : m.InStep record) (list : List Breakpoint) :
    (m.decorate list).InStep (ofList list) := by
  have pushed := Breakpoints.pushed_decorate (b := m.breakpoints) h.owned.le_last list
  refine ⟨?_, fun k mem _ => pushed.seen k mem, fun _ => ?_⟩
  · exact (h.owned.withBreakpoints (m.breakpoints.exchange_decorate m.anchors list)).1
  · exact congrArg ofList pushed.breakpoints.symm

/-- A flush keeps the invariant, if the host takes over what is reported. -/
theorem flush (h : m.InStep record) : m.flush.2.InStep (m.flush.1.getD record) := by
  unfold Markers.flush Breakpoints.flush
  by_cases pending : m.breakpoints.pending = true
  · rw [if_pos pending]
    exact ⟨h.owned, h.seen, fun settled => Breakpoints.canonical_of_seen h.seen settled.2⟩
  · rw [if_neg pending]
    exact h

/-- **An edit keeps the invariant**, however it moves the anchors, if the host takes over what the
check after it reports. -/
theorem checkDrift (h : m.InStep record) (owned : m'.Owned)
    (same : m'.breakpoints = m.breakpoints) :
    m'.checkDrift.2.InStep (m'.checkDrift.1.getD record) := by
  have live : ∀ k ∈ m'.breakpoints.markers, k.anchor ∈ m'.anchors.ids := fun _ mem =>
    owned.mem_ids_of_mem_markers mem
  have checked := owned.checkDrift
  unfold Markers.checkDrift at checked ⊢
  rcases m'.breakpoints.checkDrift_cases m'.anchors live with drifted | ⟨still, unchanged⟩
  · rw [drifted] at checked ⊢
    have seen := Breakpoints.seen_look live
    exact ⟨checked, seen, fun settled => Breakpoints.canonical_of_seen seen settled.2⟩
  · rw [unchanged]
    refine ⟨owned, Breakpoints.seen_of_not_drifted still, ?_⟩
    rw [same]
    exact h.agree

end InStep

end Markers

end StepScript
