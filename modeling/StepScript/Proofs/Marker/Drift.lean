import StepScript.Proofs.Marker.Agreement

/-!
# Checking twice

**A check settles.** After a check for moved markers each marker that is left has an anchor, and
each verified one is where it was seen (`Breakpoints.settled_checkDrift`). A check of such markers
finds nothing (`Breakpoints.checkDrift_of_still`), so a second check finds nothing
(`Breakpoints.checkDrift_checkDrift`).

**A check takes no breakpoint off.** It drops markers that are nowhere, and what it changes of the
others does not show in the list that is reported (`Breakpoints.canonical_checkDrift`).
-/

namespace StepScript.Breakpoints

variable (b : Breakpoints) (a : Anchors)

/-- Where all markers have an anchor, and the verified ones are where they were seen, a check finds
nothing. -/
theorem checkDrift_of_still (live : ∀ k ∈ b.markers, (a.resolve? k.anchor).isSome)
    (still : ∀ k ∈ b.markers, hasDrifted a k = false) : b.checkDrift a = (none, b) := by
  have all : (b.markers.filter fun k => (a.resolve? k.anchor).isSome) = b.markers :=
    List.filter_eq_self.mpr live
  have quiet : ¬ b.markers.any (hasDrifted a) = true := by
    rw [List.any_eq_true]
    rintro ⟨k, mem, drifted⟩
    exact absurd (drifted.symm.trans (still k mem)) (by decide)
  unfold checkDrift
  rw [all, if_neg quiet]

/-- What a check leaves: markers that have an anchor, the verified ones where they were seen. -/
theorem settled_checkDrift {k : Marker} (mem : k ∈ (b.checkDrift a).2.markers) :
    (a.resolve? k.anchor).isSome ∧ hasDrifted a k = false := by
  unfold checkDrift at mem
  simp only at mem
  split_ifs at mem with drifted
  · obtain ⟨j, mem_j, rfl⟩ := List.mem_map.mp mem
    obtain ⟨range, found⟩ := Option.isSome_iff_exists.mp (List.mem_filter.mp mem_j).2
    simp [hasDrifted, look, found]
  · rw [List.any_eq_true] at drifted
    exact ⟨(List.mem_filter.mp mem).2, Bool.eq_false_iff.mpr fun has => drifted ⟨k, mem, has⟩⟩

/-- **A second check finds nothing**, and changes nothing. -/
theorem checkDrift_checkDrift :
    (b.checkDrift a).2.checkDrift a = (none, (b.checkDrift a).2) :=
  checkDrift_of_still _ a (fun _ mem => (b.settled_checkDrift a mem).1)
    fun _ mem => (b.settled_checkDrift a mem).2

/-- A check leaves the breakpoints at the present lines as they are. -/
theorem placed_checkDrift : (b.checkDrift a).2.placed a = b.placed a := by
  have live : (b.markers.filter fun k => (a.resolve? k.anchor).isSome).filterMap
      (fun k => (a.line? k.anchor).map fun line => (⟨line, k.enabled⟩ : Breakpoint)) =
        b.placed a := by
    rw [List.filterMap_filter]
    refine List.filterMap_congr fun k _ => ?_
    cases found : a.resolve? k.anchor with
    | none => simp [Anchors.line?, found]
    | some range => simp
  unfold checkDrift
  simp only
  split_ifs
  · rw [placed, List.filterMap_map]
    exact live
  · exact live

/-- **A check leaves the list to report as it is.** -/
theorem canonical_checkDrift : (b.checkDrift a).2.canonical a = b.canonical a := by
  rw [canonical, placed_checkDrift, canonical]

end StepScript.Breakpoints
