import Mathlib
import StepScript.Markers
import StepScript.Proofs.Marker.Ownership

/-!
# What becomes of a store of anchors

**Changes.** Four things can happen to a store: an anchor is created, one is removed, and lines are
inserted or deleted (`Anchors.Change`). So every store there is comes from the empty one by changes
(`Anchors.made`), and what each change keeps holds of all stores, such as that the number of every
live anchor has been handed out (`Anchors.issued_made`).

**Starts of lines.** Breakpoints, highlights and panels create anchors at the starts of lines only,
and so does an edit, which creates none (`Anchors.Reworked`). An anchor at the start of a line stays
at the start of one (`Reworked.lined`), and then its line gives its range
(`Anchors.Lined.resolve?_eq`).
-/

namespace StepScript

namespace LineRange

/-- The empty range at the start of its line. -/
def IsLine (r : LineRange) : Prop := r = ofLine r.startLine

/-- Inserting lines leaves the start of a line at the start of one. -/
theorem IsLine.insertLines {r : LineRange} (h : r.IsLine) (before count : Nat) :
    (r.insertLines before count).IsLine := by
  rw [h, LineRange.insertLines]
  split_ifs with moved grown
  · rfl
  · exact absurd grown moved
  · rfl

/-- Deleting lines leaves the start of a line at the start of one. -/
theorem IsLine.deleteLines {r : LineRange} (h : r.IsLine) (start count : Nat) :
    (r.deleteLines start count).IsLine := by
  rw [h, LineRange.deleteLines]
  split_ifs
  · rfl
  · simp only
    split_ifs
    · rfl
    · rfl

end LineRange

namespace Anchors

variable {a b c : Anchors}

/-! ## Changes -/

/-- What can happen to a store. -/
inductive Change where
  | create (range : LineRange)
  | remove (id : AnchorId)
  | insertLines (before count : Nat)
  | deleteLines (start count : Nat)
  deriving DecidableEq, Repr

/-- The store after a change. -/
def change (a : Anchors) : Change → Anchors
  | .create range => (a.create range).2
  | .remove id => a.remove id
  | .insertLines before count => a.insertLines before count
  | .deleteLines start count => a.deleteLines start count

/-- The store that changes have made. -/
def made (changes : List Change) : Anchors := changes.foldl change .empty

/-- What every change keeps holds after any changes. -/
theorem foldl_change_invariant {P : Anchors → Prop} {allowed : Change → Prop}
    (step : ∀ a x, allowed x → P a → P (change a x)) (start : P a) {changes : List Change}
    (all : ∀ x ∈ changes, allowed x) : P (changes.foldl change a) := by
  induction changes generalizing a with
  | nil => exact start
  | cons x changes ih =>
    rw [List.forall_mem_cons] at all
    exact ih (step a x all.1 start) all.2

/-- A change takes no number back. -/
theorem Issued.change (h : a.Issued) (x : Change) : (a.change x).Issued := by
  cases x with
  | create range => exact h.create range
  | remove id => exact h.removeAll [id]
  | insertLines before count => exact h.mapRanges _
  | deleteLines start count => exact h.mapRanges _

/-- **In every store** the number of every live anchor has been handed out. -/
theorem issued_made (changes : List Change) : (made changes).Issued :=
  foldl_change_invariant (fun _ x (_ : True) issued => issued.change x) .empty fun _ _ => trivial

/-! ## Anchors at the starts of lines -/

/-- The change creates no anchor but at the start of a line. -/
def Change.OfLine : Change → Prop
  | .create range => range.IsLine
  | _ => True

/-- Every anchor is at the start of a line. -/
def Lined (a : Anchors) : Prop := ∀ entry ∈ a.ranges, entry.2.IsLine

/-- The line of an anchor gives its range. -/
theorem Lined.resolve?_eq (h : a.Lined) (id : AnchorId) :
    a.resolve? id = (a.line? id).map .ofLine := by
  rw [line?, resolve?]
  cases found : a.ranges.find? (·.1 = id) with
  | none => rfl
  | some entry => exact congrArg some (h entry (List.mem_of_find?_eq_some found))

/-- Moving all ranges keeps anchors at the starts of lines, if it keeps such a range there. -/
theorem Lined.mapRanges (h : a.Lined) {f : LineRange → LineRange}
    (keeps : ∀ r : LineRange, r.IsLine → (f r).IsLine) : (a.mapRanges f).Lined := by
  intro entry mem
  obtain ⟨old, mem_old, rfl⟩ := List.mem_map.mp mem
  exact keeps _ (h old mem_old)

/-- A change that creates no anchor elsewhere keeps anchors at the starts of lines. -/
theorem Lined.change (h : a.Lined) {x : Change} (ofLine : x.OfLine) : (a.change x).Lined := by
  cases x with
  | create range =>
    intro entry mem
    rcases List.mem_append.mp mem with old | new
    · exact h entry old
    · rw [List.mem_singleton.mp new]
      exact ofLine
  | remove id => exact fun entry mem => h entry (List.mem_of_mem_filter mem)
  | insertLines before count => exact h.mapRanges fun _ line => line.insertLines before count
  | deleteLines start count => exact h.mapRanges fun _ line => line.deleteLines start count

/-! ## Reworked stores -/

/-- The store `b` comes from `a` by changes that create no anchor but at the start of a line. -/
def Reworked (a b : Anchors) : Prop :=
  ∃ changes : List Change, (∀ x ∈ changes, x.OfLine) ∧ changes.foldl change a = b

namespace Reworked

/-- Nothing happened. -/
theorem refl : Reworked a a := ⟨[], by simp, rfl⟩

/-- First one thing happened, then another. -/
theorem trans (first : Reworked a b) (second : Reworked b c) : Reworked a c := by
  obtain ⟨earlier, ofLine_earlier, rfl⟩ := first
  obtain ⟨later, ofLine_later, rfl⟩ := second
  refine ⟨earlier ++ later, fun x mem => ?_, List.foldl_append⟩
  exact (List.mem_append.mp mem).elim (ofLine_earlier x) (ofLine_later x)

/-- One change. -/
theorem single (x : Change) (ofLine : x.OfLine) : Reworked a (a.change x) :=
  ⟨[x], by simpa using ofLine, rfl⟩

/-- An anchor is created at the start of a line. -/
theorem create (line : Nat) : Reworked a (a.create (.ofLine line)).2 :=
  single (.create (.ofLine line)) rfl

/-- Anchors are removed. -/
theorem removeAll (gone : List AnchorId) : Reworked a (a.removeAll gone) :=
  ⟨gone.map .remove, by simp [Change.OfLine], List.foldl_map⟩

/-- One after another, operations each of which reworks the store. -/
theorem foldl {α β : Type} {f : α × Anchors → β → α × Anchors}
    (each : ∀ s x, Reworked s.2 (f s x).2) (list : List β) (s : α × Anchors) :
    Reworked s.2 (list.foldl f s).2 := by
  induction list generalizing s with
  | nil => exact refl
  | cons x list ih => exact (each s x).trans (ih (f s x))

/-- Anchors stay at the starts of lines. -/
theorem lined (h : Reworked a b) (lined : a.Lined) : b.Lined := by
  obtain ⟨changes, ofLine, rfl⟩ := h
  exact foldl_change_invariant (fun _ _ ofLine h => h.change ofLine) lined ofLine

end Reworked

end Anchors

open Anchors

/-! ## What each family does to the store -/

namespace Breakpoints

variable (b : Breakpoints) (a : Anchors)

/-- Removing the hint. -/
theorem reworked_clearHint : a.Reworked (b.clearHint a).2 := .removeAll _

/-- Moving the hint. -/
theorem reworked_hover (line : Option Nat) : a.Reworked (b.hover a line).2 := by
  unfold hover
  cases line with
  | none => exact b.reworked_clearHint a
  | some line =>
    simp only
    split_ifs
    · exact b.reworked_clearHint a
    · exact (b.reworked_clearHint a).trans (.create line)

/-- A toggle. -/
theorem reworked_toggle (line : Nat) : a.Reworked (b.toggle a line).2.2 := by
  rcases b.toggle_cases a line with ⟨marker, -, toggled⟩ | ⟨-, toggled⟩
  · rw [toggled]
    exact (b.reworked_clearHint a).trans (.removeAll [marker.anchor])
  · rw [toggled]
    exact (b.reworked_clearHint a).trans (.create line)

/-- The host's list. -/
theorem reworked_decorate (list : List Breakpoint) : a.Reworked (b.decorate a list).2 :=
  (Reworked.removeAll b.marked).trans
    (.foldl (f := addMarker .verified) (fun _ x => .create x.line) list (⟨[], b.hint, false⟩, _))

end Breakpoints

/-- Setting highlights. -/
theorem Highlights.reworked_set (h : Highlights) (a : Anchors) (style : Text) (lines : List Nat) :
    a.Reworked (h.set a style lines).2 := by
  unfold Highlights.set
  simp only
  split_ifs
  · exact .removeAll _
  · refine Reworked.trans ?_ (.foldl (f := add style) (fun _ line => .create line) _ _)
    exact .removeAll _

/-- An edit of the lines. -/
theorem Markers.reworked_replaceLines (m : Markers) (start deleted inserted : Nat) :
    m.anchors.Reworked (m.replaceLines start deleted inserted).anchors := by
  unfold replaceLines
  simp only
  split_ifs
  · exact .single (.deleteLines _ _) trivial
  · exact .single (.insertLines _ _) trivial
  · exact .refl

end StepScript
