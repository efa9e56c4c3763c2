import Mathlib
import StepScript.Proofs.Marker.Agreement
import StepScript.Proofs.Marker.Discard

/-!
# What a toggle does to a line

**Several markers on a line.** Markers are found where they are now, so after a deletion, or after a
list that names a line twice, a line may hold several of them. `Breakpoints.markersAt` lists them in
the order in which they were set. The breakpoint that is reported for a line is that of the first
one (`Breakpoints.markerAt?_eq_head?`).

**One marker a toggle.** A toggle of a line without a marker puts one there, and a toggle of a line
with markers takes the first of them away; no other line is concerned (`Breakpoints.Toggled`,
`Breakpoints.toggled`). So the breakpoint of the line is gone after the toggle exactly if the line
held one marker. If it held more, the next one shows, perhaps with the other flag
(`Markers.toggle_takes_first`, `Markers.toggle_shows_next`).
-/

namespace StepScript

open Anchors HostRecord

namespace Breakpoints

/-- The markers that are on a line now, in the order in which they were set. -/
def markersAt (b : Breakpoints) (a : Anchors) (line : Nat) : List Marker :=
  b.markers.filter fun k => a.line? k.anchor = some line

variable {b : Breakpoints} {a : Anchors} {others : List AnchorId}

/-! ## The markers on a line -/

/-- The marker that counts is the first one on the line. -/
theorem markerAt?_eq_head? (b : Breakpoints) (a : Anchors) (line : Nat) :
    b.markerAt? a line = (b.markersAt a line).head? := List.head?_filter.symm

/-- A line without a state is a line without markers. -/
theorem stateAt?_eq_none_iff (line : Nat) :
    b.stateAt? a line = none ↔ b.markersAt a line = [] := by
  rw [stateAt?, markerAt?_eq_head?, Option.map_eq_none_iff, List.head?_eq_none_iff]

/-- If a line has the same first marker in two states, it has the same breakpoint in both. -/
theorem mem_canonical_congr {b' : Breakpoints} {a' : Anchors} {x : Breakpoint}
    (same : b'.markersAt a' x.line = b.markersAt a x.line) :
    x ∈ b'.canonical a' ↔ x ∈ b.canonical a := by
  rw [mem_canonical_iff, mem_canonical_iff, markerAt?_eq_head?, markerAt?_eq_head?, same]

/-- Without the hint the markers on a line are the same. -/
theorem markersAt_clearHint (covered : a.Covered b.held others) (line : Nat) :
    (b.clearHint a).1.markersAt (b.clearHint a).2 line = b.markersAt a line :=
  a.filter_line?_congr Marker.anchor (fun _ mem => resolve?_clearHint covered mem) line

/-- A marker that is added comes last on its line. -/
theorem markersAt_addMarker {s : Breakpoints × Anchors} (covered : s.2.Covered s.1.held others)
    (state : MarkerState) (x : Breakpoint) (line : Nat) :
    (addMarker state s x).1.markersAt (addMarker state s x).2 line =
      s.1.markersAt s.2 line ++
        if x.line = line then [⟨s.2.last + 1, .ofLine x.line, x.enabled, state⟩] else [] := by
  refine s.2.filter_line?_create Marker.anchor x.line covered.new
    (fun k mem => covered.ne_next ?_) rfl line
  exact List.mem_append_left _ (List.mem_append_left _ (List.mem_map_of_mem mem))

/-- A marker that is taken out leaves the others on their lines. -/
theorem markersAt_erase (covered : a.Covered b.held others) {first : Marker}
    (mem : first ∈ b.markers) (line : Nat) :
    (⟨b.markers.erase first, none, true⟩ : Breakpoints).markersAt
      ((b.clearHint a).2.remove first.anchor) line = (b.markersAt a line).erase first := by
  have left := a.filter_line?_congr Marker.anchor
    (fun _ mem' => resolve?_remove_marker covered mem mem') line
  exact left.trans List.erase_filter.symm

/-! ## One toggle -/

/-- From `b` and `a` to `b'` and `a'` a line was toggled: either it had no marker and has a new one
that is enabled, or its first marker is gone. The other lines have the markers that they had. -/
structure Toggled (b : Breakpoints) (a : Anchors) (line : Nat) (added : Bool) (b' : Breakpoints)
    (a' : Anchors) : Prop where
  elsewhere : ∀ other ≠ line, b'.markersAt a' other = b.markersAt a other
  of_added : added = true →
    b.markersAt a line = [] ∧ ∃ new, b'.markersAt a' line = [new] ∧ new.enabled = true
  of_removed : added = false →
    b.markersAt a line ≠ [] ∧ b'.markersAt a' line = (b.markersAt a line).tail

/-- **Every toggle** is one of these. -/
theorem toggled (covered : a.Covered b.held others) (line : Nat) :
    b.Toggled a line (b.toggle a line).1 (b.toggle a line).2.1 (b.toggle a line).2.2 := by
  have first_cleared : b.markerAt? (b.clearHint a).2 line = (b.markersAt a line).head? :=
    (markerAt?_eq_head? _ _ line).trans (congrArg List.head? (markersAt_clearHint covered line))
  rcases b.toggle_cases a line with ⟨first, found, result⟩ | ⟨free, result⟩
  · rw [result]
    obtain ⟨rest, split⟩ : ∃ rest, b.markersAt a line = first :: rest :=
      List.head?_eq_some_iff.mp (first_cleared.symm.trans found)
    have mem : first ∈ b.markersAt a line := split ▸ List.mem_cons_self
    have left := markersAt_erase covered (List.mem_of_mem_filter mem)
    refine ⟨fun other apart => ?_, (nomatch ·), fun _ => ⟨List.ne_nil_of_mem mem, ?_⟩⟩
    · rw [left]
      refine List.erase_of_not_mem fun there => apart ?_
      have here : a.line? first.anchor = some line := by simpa using (List.mem_filter.mp mem).2
      have moved : a.line? first.anchor = some other := by
        simpa using (List.mem_filter.mp there).2
      exact Option.some.inj (moved.symm.trans here)
    · rw [left, split, List.erase_cons_head, List.tail_cons]
  · rw [result]
    have free' : b.markersAt a line = [] :=
      List.head?_eq_none_iff.mp (first_cleared.symm.trans free)
    have cleared := (b.exchange_clearHint a others covered).1
    have joined := markersAt_addMarker cleared .unverified ⟨line, true⟩
    refine ⟨fun other apart => (joined other).trans ?_, fun _ => ⟨free',
      ⟨(b.clearHint a).2.last + 1, .ofLine line, true, .unverified⟩, (joined line).trans ?_, rfl⟩,
      (nomatch ·)⟩
    · rw [markersAt_clearHint covered, if_neg apart.symm, List.append_nil]
    · rw [markersAt_clearHint covered, free', if_pos rfl, List.nil_append]

/-! ## What is reported after it -/

section Reported

variable {b' : Breakpoints} {a' : Anchors} {line : Nat} {added : Bool}

/-- The other lines have the breakpoints that they had. -/
theorem Toggled.mem_canonical_iff (toggled : b.Toggled a line added b' a') {x : Breakpoint}
    (other : x.line ≠ line) : x ∈ b'.canonical a' ↔ x ∈ b.canonical a :=
  mem_canonical_congr (toggled.elsewhere x.line other)

/-- If a marker was added, the breakpoint of its line is entered. -/
theorem Toggled.canonical_of_added (toggled : b.Toggled a line true b' a') :
    b'.canonical a' = enter ⟨line, true⟩ (b.canonical a) := by
  obtain ⟨-, new, here, enabled⟩ := toggled.of_added rfl
  have ascending := b.ascending_canonical a
  refine (b'.ascending_canonical a').eq_of_mem_iff (ascending_enter ascending) fun x => ?_
  rw [mem_enter ascending]
  obtain ⟨other, flag⟩ := x
  by_cases same : other = line
  · subst same
    rw [Breakpoints.mem_canonical_iff, markerAt?_eq_head?, here]
    simp [enabled, eq_comm]
  · rw [toggled.mem_canonical_iff same]
    simp [same]

/-- If a marker was taken away, the line has no breakpoint exactly if it has no marker left. -/
theorem Toggled.canonical_of_removed_iff (toggled : b.Toggled a line false b' a') :
    b'.canonical a' = (b.canonical a).filter (·.line ≠ line) ↔ b'.markersAt a' line = [] := by
  constructor
  · intro without
    by_contra left
    obtain ⟨next, rest, split⟩ := List.exists_cons_of_ne_nil left
    have shown : (⟨line, next.enabled⟩ : Breakpoint) ∈ b'.canonical a' := by
      rw [Breakpoints.mem_canonical_iff, markerAt?_eq_head?, split]
      rfl
    rw [without, List.mem_filter] at shown
    exact of_decide_eq_true shown.2 rfl
  · intro none_left
    refine (b'.ascending_canonical a').eq_of_mem_iff ((b.ascending_canonical a).filter _)
      fun x => ?_
    rw [List.mem_filter, decide_eq_true_iff]
    by_cases same : x.line = line
    · rw [Breakpoints.mem_canonical_iff, same, markerAt?_eq_head?, none_left]
      simp
    · rw [toggled.mem_canonical_iff same, and_iff_left same]

end Reported

end Breakpoints

namespace Markers

/-- **A toggle takes the first marker of its line.** After any operations, a line is toggled. The
breakpoints of all other lines are what they were. If a marker was added, the line had none, and its
breakpoint is entered in the list. If one was taken away, it was the first on the line, and the
others are left; so the list is what it was without the line, and the line has no state, exactly if
the line held that one marker only. -/
theorem toggle_takes_first (operations : List Operation) (line : Nat) :
    let m := operations.foldl operate .empty
    let after := (m.toggle line).2
    let before := m.breakpoints.markersAt m.anchors line
    let left := after.breakpoints.markersAt after.anchors line
    (∀ x : Breakpoint, x.line ≠ line → (x ∈ after.canonical ↔ x ∈ m.canonical)) ∧
      ((m.toggle line).1 = true →
        m.stateAt? line = none ∧ after.canonical = HostRecord.enter ⟨line, true⟩ m.canonical) ∧
      ((m.toggle line).1 = false →
        m.stateAt? line ≠ none ∧ left = before.tail ∧
        (after.canonical = m.canonical.filter (·.line ≠ line) ↔ before.length = 1) ∧
        (after.stateAt? line = none ↔ before.length = 1)) := by
  intro m after before left
  have covered : m.Covered := Covered.empty.run operations
  have toggled : m.breakpoints.Toggled m.anchors line (m.toggle line).1 after.breakpoints
      after.anchors := Breakpoints.toggled (covered.congr m.held_perm_breakpoints) line
  refine ⟨fun x other => toggled.mem_canonical_iff other, fun added => ?_, fun removed => ?_⟩
  · obtain ⟨free, -⟩ := toggled.of_added added
    rw [added] at toggled
    exact ⟨(Breakpoints.stateAt?_eq_none_iff line).mpr free, toggled.canonical_of_added⟩
  · obtain ⟨taken, here⟩ : before ≠ [] ∧ left = before.tail := toggled.of_removed removed
    have one : left = [] ↔ before.length = 1 := by
      have long : 0 < before.length := List.length_pos_iff.mpr taken
      rw [here, ← List.length_eq_zero_iff, List.length_tail]
      omega
    rw [removed] at toggled
    refine ⟨mt (Breakpoints.stateAt?_eq_none_iff line).mp taken, here, ?_, ?_⟩
    · exact toggled.canonical_of_removed_iff.trans one
    · exact (Breakpoints.stateAt?_eq_none_iff line).trans one

/-- Breakpoints are set on two lines, of which the first is deleted. -/
def collapsed : List Operation := [.decorate [⟨2, true⟩, ⟨3, false⟩], .deleteLines 2 1]

/-- **A toggle may show the next marker.** Both are on one line then, and a toggle that removes the
breakpoint of that line leaves one there, with the other flag. -/
theorem toggle_shows_next :
    (collapsed.foldl operate .empty).canonical = [⟨2, true⟩] ∧
      ((collapsed.foldl operate .empty).toggle 2).1 = false ∧
      ((collapsed.foldl operate .empty).toggle 2).2.canonical = [⟨2, false⟩] ∧
      ((collapsed.foldl operate .empty).toggle 2).2.stateAt? 2 = some .verified := by
  rw [canonical, canonical, Breakpoints.canonical_eq_ofList, Breakpoints.canonical_eq_ofList]
  decide +kernel

end Markers

end StepScript
