import Mathlib
import StepScript.Proofs.Marker.Discard

/-!
# The classes of a line

**Several classes.** A line is put into one class at a time, but highlights move with their lines,
so that after a deletion a line may have several of them. `Highlights.stylesAt` lists the classes of
all that are on a line. The lines of a class are those on which one of its highlights is, in order
and without repetitions (`Highlights.mem_lines_iff`, `Highlights.pairwise_lines`).

**Setting a class.** It goes in two stages. First some highlights give way: those on the given
lines, those whose anchor is gone, and for the class of the current step the ones that it had before
(`Highlights.stylesAt_release`). Then one highlight is added for each line
(`Highlights.stylesAt_foldl_add`). So the given lines are in the new class only, whatever was on
them, and the others have what they had, but for the current step (`Markers.highlight_stylesAt`).
-/

namespace StepScript

open Anchors

namespace Highlights

/-- The classes of the highlights on a line, in the order in which these were set. -/
def stylesAt (h : Highlights) (a : Anchors) (line : Nat) : List Text :=
  (h.entries.filter fun e => a.line? e.anchor = some line).map Highlight.style

variable {h : Highlights} {a : Anchors} {others : List AnchorId} {style : Text}
  {lines : List Nat} {line : Nat}

/-! ## The lines of a class -/

/-- Leaving out repetitions leaves out no number. -/
theorem mem_distinct {n : Nat} : n ∈ distinct lines ↔ n ∈ lines := by
  induction lines with
  | nil => rfl
  | cons first rest ih =>
    rw [distinct, List.mem_cons, List.mem_cons, List.mem_filter, ih, decide_eq_true_iff]
    tauto

/-- The order stays when repetitions are left out. -/
theorem distinct_sublist (lines : List Nat) : (distinct lines).Sublist lines := by
  induction lines with
  | nil => exact List.Sublist.refl []
  | cons first rest ih => exact (List.filter_sublist.trans ih).cons_cons first

/-- No repetitions are left. -/
theorem nodup_distinct (lines : List Nat) : (distinct lines).Nodup := by
  induction lines with
  | nil => exact List.nodup_nil
  | cons first rest ih =>
    refine List.nodup_cons.mpr ⟨fun mem => ?_, ih.filter _⟩
    exact of_decide_eq_true (List.mem_filter.mp mem).2 rfl

/-- A class is among those of a line if a highlight on the line has it. -/
theorem mem_stylesAt_iff : style ∈ h.stylesAt a line ↔
    ∃ e ∈ h.entries, a.line? e.anchor = some line ∧ e.style = style := by
  simp only [stylesAt, List.mem_map, List.mem_filter, decide_eq_true_iff, and_assoc]

/-- A line is in a class if one of its highlights has the class. -/
theorem mem_lines_iff : line ∈ h.lines a style ↔ style ∈ h.stylesAt a line := by
  rw [Highlights.lines, mem_distinct, List.mem_mergeSort, List.mem_filterMap, mem_stylesAt_iff]
  simp only [List.mem_filter, decide_eq_true_iff]
  exact exists_congr fun e => by tauto

/-- The lines of a class ascend. -/
theorem pairwise_lines (h : Highlights) (a : Anchors) (style : Text) :
    (h.lines a style).Pairwise (· < ·) := by
  have sorted : (h.lines a style).Pairwise (· ≤ ·) :=
    (List.pairwise_mergeSort' (· ≤ ·) _).sublist (distinct_sublist _)
  exact sorted.imp₂ (fun _ _ => lt_of_le_of_ne) (nodup_distinct _)

/-! ## What gives way -/

/-- A highlight on a line gives way if the line is given, or if the class of the current step is set
again. -/
theorem givesWay_iff {e : Highlight} (here : a.line? e.anchor = some line) :
    givesWay a style lines e = true ↔
      line ∈ lines ∨ (style = current ∧ e.style = current) := by
  simp [givesWay, here, or_comm]

/-- What stays has an anchor, and keeps it where it is. -/
theorem resolve?_release (covered : a.Covered h.held others) (style : Text) (lines : List Nat)
    {e : Highlight} (mem : e ∈ (h.release a style lines).1.entries) :
    (h.release a style lines).2.resolve? e.anchor = a.resolve? e.anchor := by
  obtain ⟨old, stays⟩ := List.mem_filter.mp mem
  refine a.resolve?_removeAll_of_not_mem fun gone => ?_
  obtain ⟨x, x_mem, same⟩ := List.mem_map.mp gone
  obtain ⟨x_old, x_gives⟩ := List.mem_filter.mp x_mem
  -- no two highlights have one anchor
  have nodup : h.held.Nodup := (List.nodup_append.mp covered.nodup).1
  obtain rfl := List.inj_on_of_nodup_map nodup x_old old same
  simp [x_gives] at stays

/-- **What stays on a line.** -/
theorem stylesAt_release (covered : a.Covered h.held others) (style : Text) (lines : List Nat)
    (line : Nat) : (h.release a style lines).1.stylesAt (h.release a style lines).2 line =
      if line ∈ lines then []
      else if style = current then (h.stylesAt a line).filter (· ≠ current)
      else h.stylesAt a line := by
  set onLine := h.entries.filter fun e => a.line? e.anchor = some line with onLine_eq
  have stays : ((h.release a style lines).1.entries.filter
      fun e => (h.release a style lines).2.line? e.anchor = some line) =
        onLine.filter fun e => !givesWay a style lines e := by
    rw [onLine_eq, List.filter_comm]
    exact a.filter_line?_congr Highlight.anchor
      (fun _ mem => resolve?_release covered style lines mem) line
  have gives : ∀ e ∈ onLine, givesWay a style lines e = true ↔
      line ∈ lines ∨ (style = current ∧ e.style = current) := fun e mem =>
    givesWay_iff (of_decide_eq_true (List.mem_filter.mp mem).2)
  rw [stylesAt, stays]
  split_ifs with given again
  · have none_stays : (onLine.filter fun e => !givesWay a style lines e) = [] := by
      refine List.filter_eq_nil_iff.mpr fun e mem => ?_
      simpa using (gives e mem).mpr (.inl given)
    rw [none_stays, List.map_nil]
  · rw [stylesAt, List.filter_map]
    refine congrArg (List.map Highlight.style) (List.filter_congr fun e mem => ?_)
    rw [Bool.eq_iff_iff, Bool.not_eq_true', ← Bool.not_eq_true, gives e mem]
    simp [given, again]
  · have all_stay : (onLine.filter fun e => !givesWay a style lines e) = onLine := by
      refine List.filter_eq_self.mpr fun e mem => ?_
      rw [Bool.not_eq_true', ← Bool.not_eq_true, gives e mem]
      simp [given, again]
    rw [all_stay, stylesAt]

/-- What stays has a live anchor. -/
theorem live_release (covered : a.Covered h.held others) (style : Text) (lines : List Nat) :
    ∀ id ∈ (h.release a style lines).1.held, id ∈ (h.release a style lines).2.ids := by
  intro id mem
  obtain ⟨e, e_mem, rfl⟩ := List.mem_map.mp mem
  rw [← isSome_resolve?, resolve?_release covered style lines e_mem]
  have stays : givesWay a style lines e = false := by
    simpa using (List.mem_filter.mp e_mem).2
  cases found : a.resolve? e.anchor with
  | none => simp [givesWay, line?, found] at stays
  | some range => rfl

/-! ## What is added -/

/-- A highlight that is added puts its class last on its line. -/
theorem stylesAt_add {s : Highlights × Anchors} (covered : s.2.Covered s.1.held others)
    (style : Text) (place line : Nat) :
    (add style s place).1.stylesAt (add style s place).2 line =
      s.1.stylesAt s.2 line ++ if place = line then [style] else [] := by
  have others : ∀ e ∈ s.1.entries, e.anchor ≠ s.2.last + 1 := fun e mem =>
    covered.ne_next (List.mem_append_left _ (List.mem_map_of_mem mem))
  have own : Highlight.anchor ⟨s.2.last + 1, style⟩ = s.2.last + 1 := rfl
  have added := s.2.filter_line?_create Highlight.anchor place covered.new others own line
  refine (congrArg (List.map Highlight.style) added).trans ?_
  rw [List.map_append, stylesAt]
  split_ifs <;> rfl

/-- Highlights that are added put their class last on each of their lines. -/
theorem stylesAt_foldl_add {places : List Nat} (distinct : places.Nodup)
    {s : Highlights × Anchors} (covered : s.2.Covered s.1.held others) (style : Text)
    (line : Nat) :
    (places.foldl (add style) s).1.stylesAt (places.foldl (add style) s).2 line =
      s.1.stylesAt s.2 line ++ if line ∈ places then [style] else [] := by
  induction places generalizing s with
  | nil => simp
  | cons place places ih =>
    obtain ⟨once, distinct⟩ := List.nodup_cons.mp distinct
    have next := (exchange_add style s place others covered).1
    rw [List.foldl_cons, ih distinct next, stylesAt_add covered, List.append_assoc]
    congr 1
    by_cases here : place = line
    · subst here
      simp [once]
    · simp [here, Ne.symm here]

/-! ## Setting a class -/

/-- **Setting a class** takes the given lines out of all classes and puts them into this one. Of the
other lines, only the class of the current step is taken, if that is set. -/
theorem stylesAt_set (covered : a.Covered h.held others) (style : Text) (lines : List Nat)
    (line : Nat) : (h.set a style lines).1.stylesAt (h.set a style lines).2 line =
      if line ∈ lines then if style = [] then [] else [style]
      else if style = current then (h.stylesAt a line).filter (· ≠ current)
      else h.stylesAt a line := by
  have released := (h.exchange_release a style lines others covered).1
  have once : (if style = [] then [] else distinct lines).Nodup := by
    split_ifs
    · exact List.nodup_nil
    · exact nodup_distinct lines
  rw [set_eq_foldl, stylesAt_foldl_add once released, stylesAt_release covered]
  by_cases given : line ∈ lines
  · rw [if_pos given, if_pos given, List.nil_append]
    split_ifs <;> simp_all [mem_distinct]
  · have not_added : line ∉ (if style = [] then [] else distinct lines) := by
      split_ifs
      · exact List.not_mem_nil
      · exact mt mem_distinct.mp given
    rw [if_neg given, if_neg given, if_neg not_added, List.append_nil]

/-- After a class was set, no highlight is without a live anchor. -/
theorem live_set (covered : a.Covered h.held others) (style : Text) (lines : List Nat) :
    ∀ id ∈ (h.set a style lines).1.held, id ∈ (h.set a style lines).2.ids := by
  have released := (h.exchange_release a style lines others covered).1
  rw [set_eq_foldl]
  exact (Exchange.foldl (exchange_add style) _ _ others released).2.2
    (live_release covered style lines)

end Highlights

namespace Markers

/-- The classes of a line. -/
def stylesAt (m : Markers) (line : Nat) : List Text := m.highlights.stylesAt m.anchors line

/-- A line is in a class if one of its highlights has the class. -/
theorem mem_highlighted_iff {m : Markers} {style : Text} {line : Nat} :
    line ∈ m.highlighted style ↔ style ∈ m.stylesAt line := Highlights.mem_lines_iff

/-- **Setting a class does what it says.** Whatever was done before, after a class is set each of
the given lines has one highlight, of that class, or none if the class is empty. The other lines are
in the classes in which they were, but not in that of the current step if this is set. The lines of
every class are listed in ascending order, without repetitions. And every highlight that is left has
a live anchor. -/
theorem highlight_stylesAt (operations : List Operation) (style : Text) (lines : List Nat) :
    let m := operations.foldl operate .empty
    let after := m.highlight style lines
    (∀ line ∈ lines, after.stylesAt line = if style = [] then [] else [style]) ∧
      (∀ line ∉ lines, after.stylesAt line =
        if style = Highlights.current then (m.stylesAt line).filter (· ≠ Highlights.current)
        else m.stylesAt line) ∧
      (∀ other, (after.highlighted other).Pairwise (· < ·) ∧
        ∀ line, line ∈ after.highlighted other ↔ other ∈ after.stylesAt line) ∧
      ∀ e ∈ after.highlights.entries, (after.anchors.resolve? e.anchor).isSome := by
  intro m after
  have covered : m.Covered := Covered.empty.run operations
  have shared := covered.congr m.held_perm_highlights
  have set (line : Nat) := Highlights.stylesAt_set shared style lines line
  refine ⟨fun line given => (set line).trans (if_pos given),
    fun line other => (set line).trans (if_neg other), fun other => ⟨?_, fun line => ?_⟩,
    fun e mem => ?_⟩
  · exact Highlights.pairwise_lines _ _ other
  · exact mem_highlighted_iff
  · rw [isSome_resolve?]
    exact Highlights.live_set shared style lines _ (List.mem_map_of_mem mem)

end Markers

end StepScript
