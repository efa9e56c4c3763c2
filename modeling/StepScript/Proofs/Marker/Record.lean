import Mathlib
import StepScript.Marker.Breakpoint

/-!
# What a host has on record

**The record.** A host keeps breakpoints in the order of their lines, at most one for each line. It
enters them one at a time (`HostRecord.enter`), and where a list names a line more than once, the
first entry counts (`HostRecord.ofList`).

**The reports agree with it.** An editor finds the list that it reports in another way: it drops the
later markers of each line and sorts the others. Both lists ascend strictly by line, and both
consist of the first breakpoint of each line (`HostRecord.mem_ofList`, `Breakpoints.mem_canonical`),
so they are equal (`Breakpoints.canonical_eq_ofList`).
-/

namespace StepScript

/-- The breakpoints that a host has on record. -/
abbrev HostRecord := List Breakpoint

/-- The first breakpoint of a line in a list that goes on after `x`: it is `x`, or it is on another
line. -/
theorem Breakpoint.first_cons {x y : Breakpoint} {list : List Breakpoint} :
    (x :: list).find? (·.line = y.line) = some y ↔
      y = x ∨ (list.find? (·.line = y.line) = some y ∧ y.line ≠ x.line) := by
  by_cases here : x.line = y.line
  · rw [List.find?_cons_of_pos (by simpa using here)]
    simp [here, eq_comm]
  · rw [List.find?_cons_of_neg (by simpa using here)]
    have other : y ≠ x := fun eq => here (eq ▸ rfl)
    simp [Ne.symm here, other]

namespace HostRecord

/-- Enters a breakpoint. It takes the place of one on the same line. -/
def enter (x : Breakpoint) : HostRecord → HostRecord
  | [] => [x]
  | y :: rest =>
    if x.line < y.line then x :: y :: rest
    else if x.line = y.line then x :: rest
    else y :: enter x rest

/-- The record of a list, in which the first entry of a line counts. -/
def ofList (list : List Breakpoint) : HostRecord := list.foldr enter []

/-- Strictly in the order of lines. -/
def Ascending (record : HostRecord) : Prop := record.Pairwise (·.line < ·.line)

/-! ## The entries of a record -/

/-- Entering a breakpoint puts it in and takes out what was on its line. -/
theorem mem_enter {x y : Breakpoint} {record : HostRecord} (ascending : record.Ascending) :
    y ∈ record.enter x ↔ y = x ∨ (y ∈ record ∧ y.line ≠ x.line) := by
  induction record with
  | nil => simp [enter]
  | cons z rest ih =>
    obtain ⟨after_z, ascending_rest⟩ := List.pairwise_cons.mp ascending
    rw [enter]
    split_ifs with less same
    · have apart : ∀ w ∈ z :: rest, w.line ≠ x.line := by
        intro w mem
        rcases List.mem_cons.mp mem with rfl | later
        · exact less.ne'
        · exact (less.trans (after_z w later)).ne'
      rw [List.mem_cons]
      exact or_congr_right ⟨fun mem => ⟨mem, apart y mem⟩, And.left⟩
    · have apart : ∀ w ∈ rest, w.line ≠ x.line := fun w mem => same ▸ (after_z w mem).ne'
      rw [List.mem_cons, List.mem_cons]
      refine or_congr_right ⟨fun mem => ⟨.inr mem, apart y mem⟩, ?_⟩
      rintro ⟨rfl | mem, other⟩
      · exact absurd same.symm other
      · exact mem
    · rw [List.mem_cons, List.mem_cons, ih ascending_rest]
      constructor
      · rintro (rfl | rfl | ⟨mem, other⟩)
        · exact .inr ⟨.inl rfl, fun eq => same eq.symm⟩
        · exact .inl rfl
        · exact .inr ⟨.inr mem, other⟩
      · rintro (rfl | ⟨rfl | mem, other⟩)
        · exact .inr (.inl rfl)
        · exact .inl rfl
        · exact .inr (.inr ⟨mem, other⟩)

/-- Entering a breakpoint keeps the order. -/
theorem ascending_enter {x : Breakpoint} {record : HostRecord} (ascending : record.Ascending) :
    (record.enter x).Ascending := by
  induction record with
  | nil => exact List.pairwise_singleton _ x
  | cons z rest ih =>
    obtain ⟨after_z, ascending_rest⟩ := List.pairwise_cons.mp ascending
    rw [enter]
    split_ifs with less same
    · refine List.Pairwise.cons (fun w mem => ?_) ascending
      rcases List.mem_cons.mp mem with rfl | later
      · exact less
      · exact less.trans (after_z w later)
    · exact List.Pairwise.cons (fun w mem => same ▸ after_z w mem) ascending_rest
    · refine List.Pairwise.cons (fun w mem => ?_) (ih ascending_rest)
      rcases (mem_enter ascending_rest).mp mem with rfl | ⟨later, -⟩
      · omega
      · exact after_z w later

/-- The record of a list is in order. -/
theorem ascending_ofList (list : List Breakpoint) : (ofList list).Ascending := by
  induction list with
  | nil => exact List.Pairwise.nil
  | cons x list ih => exact ascending_enter ih

/-- The record of a list has the first breakpoint of each line. -/
theorem mem_ofList {y : Breakpoint} {list : List Breakpoint} :
    y ∈ ofList list ↔ list.find? (·.line = y.line) = some y := by
  induction list with
  | nil => simp [ofList]
  | cons x list ih =>
    have entered : y ∈ ofList (x :: list) ↔ y = x ∨ (y ∈ ofList list ∧ y.line ≠ x.line) :=
      mem_enter (ascending_ofList list)
    rw [entered, ih, Breakpoint.first_cons]

/-- Two ordered records with the same entries are equal. -/
theorem Ascending.eq_of_mem_iff {one other : HostRecord} (first : one.Ascending)
    (second : other.Ascending) (same : ∀ y, y ∈ one ↔ y ∈ other) : one = other := by
  have nodup {record : HostRecord} (h : record.Ascending) : record.Nodup :=
    List.Pairwise.imp (fun less => fun eq => absurd (eq ▸ less) (Nat.lt_irrefl _)) h
  exact List.Perm.eq_of_pairwise (fun x y _ _ less more => absurd less (Nat.lt_asymm more))
    first second ((List.perm_ext_iff_of_nodup (nodup first) (nodup second)).mpr same)

end HostRecord

namespace Breakpoints

open HostRecord

/-! ## The list that is reported -/

/-- Dropping the later breakpoints of each line leaves the first ones. -/
theorem mem_firstPerLine {y : Breakpoint} {list : List Breakpoint} :
    y ∈ firstPerLine list ↔ list.find? (·.line = y.line) = some y := by
  induction list with
  | nil => simp [firstPerLine]
  | cons x list ih =>
    rw [firstPerLine, List.mem_cons, List.mem_filter, ih, Breakpoint.first_cons, decide_eq_true_iff]

/-- The first breakpoints of lines are on different lines. -/
theorem apart_firstPerLine (list : List Breakpoint) :
    (firstPerLine list).Pairwise (·.line ≠ ·.line) := by
  induction list with
  | nil => exact List.Pairwise.nil
  | cons x list ih =>
    refine List.Pairwise.cons (fun y mem => ?_) (ih.filter _)
    have other := (List.mem_filter.mp mem).2
    exact fun eq => absurd eq.symm (of_decide_eq_true other)

variable (b : Breakpoints) (a : Anchors)

/-- The reported list is in order. -/
theorem ascending_canonical : Ascending (b.canonical a) := by
  have apart : (b.canonical a).Pairwise (·.line ≠ ·.line) :=
    (List.mergeSort_perm _ _).symm.pairwise (apart_firstPerLine (b.placed a)) Ne.symm
  have sorted : (b.canonical a).Pairwise (·.line ≤ ·.line) :=
    List.pairwise_mergeSort' (Order.Preimage Breakpoint.line (· ≤ ·)) (firstPerLine (b.placed a))
  exact sorted.imp₂ (fun x y le ne => Nat.lt_of_le_of_ne le ne) apart

/-- The reported list has the first breakpoint of each line. -/
theorem mem_canonical {y : Breakpoint} :
    y ∈ b.canonical a ↔ (b.placed a).find? (·.line = y.line) = some y := by
  rw [canonical, List.mem_mergeSort, mem_firstPerLine]

/-- The first breakpoint of a line is that of the first marker on it. -/
theorem find?_placed (line : Nat) :
    (b.placed a).find? (·.line = line) =
      (b.markerAt? a line).map fun k => ⟨line, k.enabled⟩ := by
  rw [placed, List.find?_filterMap, markerAt?]
  have same : ∀ k : Marker, ((a.line? k.anchor).map (Breakpoint.mk · k.enabled)).any
      (fun x => decide (x.line = line)) = decide (a.line? k.anchor = some line) := by
    intro k
    cases a.line? k.anchor <;> simp
  simp only [same]
  cases found : b.markers.find? fun k => a.line? k.anchor = some line with
  | none => rfl
  | some k =>
    have here : a.line? k.anchor = some line := by simpa using List.find?_some found
    simp [here]

/-- **Whose flag is reported**: that of the first marker on the line. -/
theorem mem_canonical_iff {x : Breakpoint} :
    x ∈ b.canonical a ↔ (b.markerAt? a x.line).map Marker.enabled = some x.enabled := by
  obtain ⟨line, enabled⟩ := x
  rw [mem_canonical, find?_placed]
  cases b.markerAt? a line <;> simp

/-- **Which lines are reported**: those that have a state. -/
theorem exists_mem_canonical_iff (line : Nat) :
    (∃ x ∈ b.canonical a, x.line = line) ↔ (b.stateAt? a line).isSome := by
  rw [stateAt?, Option.isSome_map]
  constructor
  · rintro ⟨x, mem, rfl⟩
    rw [mem_canonical_iff] at mem
    exact Option.isSome_map.symm.trans (congrArg Option.isSome mem)
  · intro marked
    obtain ⟨k, found⟩ := Option.isSome_iff_exists.mp marked
    exact ⟨⟨line, k.enabled⟩, (b.mem_canonical_iff a).mpr (by rw [found]; rfl), rfl⟩

/-- The lines that have a state are those with a marker. -/
theorem isSome_stateAt?_iff {line : Nat} :
    (b.stateAt? a line).isSome ↔ ∃ k ∈ b.markers, a.line? k.anchor = some line := by
  rw [stateAt?, Option.isSome_map, markerAt?, List.find?_isSome]
  simp only [decide_eq_true_eq]

/-- **What is reported is what a host has on record** of the breakpoints at their present lines. -/
theorem canonical_eq_ofList : b.canonical a = ofList (b.placed a) :=
  (b.ascending_canonical a).eq_of_mem_iff (ascending_ofList _) fun _ =>
    (b.mem_canonical a).trans mem_ofList.symm

end Breakpoints

end StepScript
