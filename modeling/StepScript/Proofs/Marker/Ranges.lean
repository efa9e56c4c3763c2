import Mathlib
import StepScript.Proofs.Marker.Following
import StepScript.Proofs.Marker.Store

/-!
# What whole-line changes do to ranges

**Order.** Inserting and deleting lines moves both ends of a range by one function of lines
(`Anchors.Change.moveLine`), and that function never puts a later line before an earlier one
(`Anchors.Change.monotone_moveLine`). So two markers keep their order, and the start of a range stays
before its end as long as the two are on different lines. Where a deletion brings them onto one line,
the range becomes empty, since its columns have lost their meaning
(`LineRange.WellFormed.deleteLines`). The run of any such changes moves each range by the changes in
turn (`Anchors.resolve?_foldl_change`), and what one of them keeps, they all do
(`Anchors.changes_keep_order`).

**Undoing.** Deleting the lines that were just inserted brings every line back. A range that is on
one line, the one before which they were inserted, is taken for a range inside the deleted lines,
though: it comes back without its columns (`LineRange.deleteLines_insertLines`). So undoing restores
exactly the anchors that have nothing to lose there (`Anchors.undo_restores_iff`), among them all
that are at the start of a line (`Anchors.Lined.resolve?_undone`).
-/

namespace StepScript

namespace LineRange

/-- A range whose start is not behind its end, and whose columns count from one. -/
structure WellFormed (r : LineRange) : Prop where
  forward : r.startLine < r.endLine ∨ r.startLine = r.endLine ∧ r.startColumn ≤ r.endColumn
  startColumn_pos : 1 ≤ r.startColumn
  endColumn_pos : 1 ≤ r.endColumn

/-- Where a line is after `count` lines were inserted before line `before`. -/
def lineAfterInsert (before count line : Nat) : Nat :=
  if before ≤ line then line + count else line

variable {r : LineRange}

/-! ## Lines -/

/-- Inserted lines keep the order of lines. -/
theorem monotone_lineAfterInsert (before count : Nat) : Monotone (lineAfterInsert before count) := by
  intro line later le
  unfold lineAfterInsert
  split_ifs <;> omega

/-- Deleted lines keep the order of lines. -/
theorem monotone_lineAfterDelete (start count : Nat) : Monotone (lineAfterDelete start count) := by
  intro line later le
  unfold lineAfterDelete
  split_ifs <;> omega

/-- Deleting the inserted lines brings every line back. -/
theorem lineAfterDelete_lineAfterInsert (before count line : Nat) :
    lineAfterDelete before count (lineAfterInsert before count line) = line := by
  unfold lineAfterDelete lineAfterInsert
  split_ifs <;> omega

/-! ## Ranges -/

/-- Inserting lines moves both ends of a range, if its start is not behind its end. -/
theorem insertLines_eq (forward : r.startLine ≤ r.endLine) (before count : Nat) :
    r.insertLines before count =
      { r with
        startLine := lineAfterInsert before count r.startLine
        endLine := lineAfterInsert before count r.endLine } := by
  unfold insertLines lineAfterInsert
  by_cases starts : before ≤ r.startLine
  · rw [if_pos starts, if_pos starts, if_pos (starts.trans forward)]
  · rw [if_neg starts, if_neg starts]
    split_ifs <;> rfl

/-- Deleting lines moves both ends of a range. A range that is then on the line in their place, and
did not start before it, becomes empty. -/
theorem deleteLines_eq {count : Nat} (some_deleted : count ≠ 0) (start : Nat) :
    r.deleteLines start count =
      if start ≤ r.startLine ∧ lineAfterDelete start count r.startLine = start ∧
          lineAfterDelete start count r.endLine = start then ofLine start
      else
        { r with
          startLine := lineAfterDelete start count r.startLine
          endLine := lineAfterDelete start count r.endLine } := by
  rw [deleteLines, if_neg some_deleted]

/-- Inserting no lines changes nothing. -/
theorem insertLines_zero (before : Nat) : r.insertLines before 0 = r := by
  unfold insertLines
  split_ifs <;> rfl

/-- Deleting no lines changes nothing. -/
theorem deleteLines_zero (start : Nat) : r.deleteLines start 0 = r := if_pos rfl

namespace WellFormed

/-- In a range that is well-formed, the start is on no later line than the end. -/
theorem lines_le (wellFormed : r.WellFormed) : r.startLine ≤ r.endLine :=
  wellFormed.forward.elim Nat.le_of_lt fun same => same.1.le

/-- The range of a whole line is well formed. -/
theorem ofLine (line : Nat) : (LineRange.ofLine line).WellFormed :=
  ⟨.inr ⟨rfl, le_rfl⟩, le_rfl, le_rfl⟩

/-- Inserting lines never brings two lines together. -/
theorem insertLines (wellFormed : r.WellFormed) (before count : Nat) :
    (r.insertLines before count).WellFormed := by
  rw [insertLines_eq wellFormed.lines_le]
  refine ⟨?_, wellFormed.startColumn_pos, wellFormed.endColumn_pos⟩
  dsimp only
  rcases wellFormed.forward with earlier | ⟨same, columns⟩
  · refine .inl ?_
    unfold lineAfterInsert
    split_ifs <;> omega
  · exact .inr ⟨by rw [same], columns⟩

/-- Deleting lines brings lines together, but of a range it then leaves nothing. -/
theorem deleteLines (wellFormed : r.WellFormed) (start count : Nat) :
    (r.deleteLines start count).WellFormed := by
  by_cases none_deleted : count = 0
  · rwa [none_deleted, deleteLines_zero]
  rw [deleteLines_eq none_deleted]
  split_ifs with collapsed
  · exact .ofLine start
  refine ⟨?_, wellFormed.startColumn_pos, wellFormed.endColumn_pos⟩
  dsimp only
  rcases wellFormed.forward with earlier | ⟨same, columns⟩
  · -- The two lines could only meet in the place of the deleted ones.
    refine .inl (lt_of_le_of_ne (monotone_lineAfterDelete start count earlier.le) fun meet => ?_)
    unfold lineAfterDelete at meet collapsed
    split_ifs at meet collapsed <;> omega
  · exact .inr ⟨by rw [same], columns⟩

end WellFormed

/-- **What undoing an insertion leaves of a range.** Its lines come back, and so do its columns,
unless it is inside the one line before which lines were inserted. -/
theorem deleteLines_insertLines (forward : r.startLine ≤ r.endLine) (before count : Nat) :
    (r.insertLines before count).deleteLines before count =
      if count ≠ 0 ∧ r.startLine = before ∧ r.endLine = before then ofLine before else r := by
  by_cases none_inserted : count = 0
  · rw [none_inserted, insertLines_zero, deleteLines_zero, if_neg fun here => here.1 rfl]
  rw [insertLines_eq forward, deleteLines_eq none_inserted]
  simp only [lineAfterDelete_lineAfterInsert]
  have starts : r.startLine = before → before ≤ lineAfterInsert before count r.startLine := by
    intro same
    rw [lineAfterInsert, if_pos same.ge]
    omega
  by_cases here : r.startLine = before ∧ r.endLine = before
  · rw [if_pos ⟨starts here.1, here⟩, if_pos ⟨none_inserted, here⟩]
  · rw [if_neg fun collapsed => here collapsed.2, if_neg fun collapsed => here collapsed.2]

end LineRange

namespace Anchors

variable {a : Anchors} {id : AnchorId} {r : LineRange}

/-! ## Changes of lines -/

namespace Change

/-- The change inserts or deletes lines. -/
def MovesLines : Change → Prop
  | .insertLines _ _ | .deleteLines _ _ => True
  | .create _ | .remove _ => False

/-- What a change does to the range of an anchor that was there before it and still is. -/
def moveRange : Change → LineRange → LineRange
  | .insertLines before count => LineRange.insertLines before count
  | .deleteLines start count => LineRange.deleteLines start count
  | .create _ | .remove _ => fun r => r

/-- What a change does to the line of such an anchor. -/
def moveLine : Change → Nat → Nat
  | .insertLines before count => LineRange.lineAfterInsert before count
  | .deleteLines start count => LineRange.lineAfterDelete start count
  | .create _ | .remove _ => fun line => line

/-- No change puts a later line before an earlier one. -/
theorem monotone_moveLine (x : Change) : Monotone x.moveLine := by
  cases x with
  | insertLines before count => exact LineRange.monotone_lineAfterInsert before count
  | deleteLines start count => exact LineRange.monotone_lineAfterDelete start count
  | create range => exact monotone_id
  | remove id => exact monotone_id

/-- The start of a range is moved as a line. -/
theorem startLine_moveRange (x : Change) (r : LineRange) :
    (x.moveRange r).startLine = x.moveLine r.startLine := by
  cases x with
  | insertLines before count => exact r.startLine_insertLines count before
  | deleteLines start count => exact r.startLine_deleteLines count start
  | create range => rfl
  | remove id => rfl

/-- A range that is well-formed stays so. -/
theorem wellFormed_moveRange (x : Change) (wellFormed : r.WellFormed) :
    (x.moveRange r).WellFormed := by
  cases x with
  | insertLines before count => exact wellFormed.insertLines before count
  | deleteLines start count => exact wellFormed.deleteLines start count
  | create range => exact wellFormed
  | remove id => exact wellFormed

end Change

/-- Inserting or deleting lines moves the range of every anchor. -/
theorem resolve?_change (a : Anchors) {x : Change} (moves : x.MovesLines) (id : AnchorId) :
    (a.change x).resolve? id = (a.resolve? id).map x.moveRange := by
  cases x with
  | insertLines before count => exact a.resolve?_mapRanges _
  | deleteLines start count => exact a.resolve?_mapRanges _
  | create range => exact moves.elim
  | remove id => exact moves.elim

/-- **Changes of lines move every range by one change after the other.** -/
theorem resolve?_foldl_change (a : Anchors) {changes : List Change}
    (moves : ∀ x ∈ changes, x.MovesLines) (id : AnchorId) :
    (changes.foldl change a).resolve? id =
      (a.resolve? id).map fun r => changes.foldl (fun r x => x.moveRange r) r := by
  induction changes generalizing a with
  | nil => exact Option.map_id'.symm
  | cons x changes ih =>
    rw [List.forall_mem_cons] at moves
    rw [List.foldl_cons, ih _ moves.2, a.resolve?_change moves.1, Option.map_map]
    rfl

/-- A range that is well-formed stays so through all changes. -/
theorem wellFormed_foldl_moveRange (changes : List Change) (wellFormed : r.WellFormed) :
    (changes.foldl (fun r x => x.moveRange r) r).WellFormed := by
  induction changes generalizing r with
  | nil => exact wellFormed
  | cons x changes ih => exact ih (x.wellFormed_moveRange wellFormed)

/-- Changes move the start of a range by a function that keeps the order of lines. -/
theorem exists_monotone_startLine (changes : List Change) :
    ∃ move : Nat → Nat, Monotone move ∧ ∀ r : LineRange,
      (changes.foldl (fun r x => x.moveRange r) r).startLine = move r.startLine := by
  induction changes with
  | nil => exact ⟨fun line => line, monotone_id, fun _ => rfl⟩
  | cons x changes ih =>
    obtain ⟨move, monotone, moved⟩ := ih
    refine ⟨move ∘ x.moveLine, monotone.comp x.monotone_moveLine, fun r => ?_⟩
    rw [List.foldl_cons, moved, x.startLine_moveRange]
    rfl

/-- What holds of all ranges of a store holds of those that anchors resolve to. -/
theorem of_resolve?_eq_some {P : LineRange → Prop} (all : ∀ entry ∈ a.ranges, P entry.2)
    (resolved : a.resolve? id = some r) : P r := by
  obtain ⟨entry, found, rfl⟩ := Option.map_eq_some_iff.mp resolved
  exact all entry (List.mem_of_find?_eq_some found)

/-- **Changes of lines keep ranges well-formed and anchors in order.** If every range of a store is
well-formed, then after lines were inserted and deleted in any order, the same anchors are live, every
range is well-formed, and of two anchors the one whose line came first, or was the same, still does
not come after the other one. -/
theorem changes_keep_order (wellFormed : ∀ id r, a.resolve? id = some r → r.WellFormed)
    {changes : List Change} (moves : ∀ x ∈ changes, x.MovesLines) :
    let after := changes.foldl change a
    (∀ id, (after.resolve? id).isSome = (a.resolve? id).isSome) ∧
      (∀ id r, after.resolve? id = some r → r.WellFormed) ∧
      ∀ id other line second, a.line? id = some line → a.line? other = some second →
        line ≤ second → ∃ line' second', after.line? id = some line' ∧
          after.line? other = some second' ∧ line' ≤ second' := by
  intro after
  have moved := a.resolve?_foldl_change moves
  refine ⟨fun id => ?_, fun id r resolved => ?_, fun id other line second at_line at_second le => ?_⟩
  · rw [moved, Option.isSome_map]
  · rw [moved] at resolved
    obtain ⟨old, found, rfl⟩ := Option.map_eq_some_iff.mp resolved
    exact wellFormed_foldl_moveRange changes (wellFormed id old found)
  · obtain ⟨move, monotone, starts⟩ := exists_monotone_startLine changes
    have lines (id : AnchorId) : after.line? id = (a.line? id).map move := by
      rw [line?, line?, moved, Option.map_map, Option.map_map]
      congr 1
      funext r
      exact starts r
    refine ⟨move line, move second, ?_, ?_, monotone le⟩
    · rw [lines, at_line, Option.map_some]
    · rw [lines, at_second, Option.map_some]

/-- Three anchors: one that spans lines, one inside a line, and one at the start of a line. -/
def threeAnchors : Anchors :=
  made [.create ⟨1, 4, 3, 2⟩, .create ⟨3, 5, 3, 9⟩, .create (.ofLine 4)]

/-- Lines go and come while the first two ranges lose one end each. -/
theorem changes_keep_order_threeAnchors :
    (∀ id r, threeAnchors.resolve? id = some r → r.WellFormed) ∧
      (∀ x ∈ [Change.deleteLines 2 2, .insertLines 2 1], x.MovesLines) ∧
      threeAnchors.line? 2 = some 3 ∧ threeAnchors.line? 3 = some 4 ∧
      ∃ line second,
        ([Change.deleteLines 2 2, .insertLines 2 1].foldl change threeAnchors).line? 2 = some line ∧
        ([Change.deleteLines 2 2, .insertLines 2 1].foldl change threeAnchors).line? 3 =
          some second ∧ line ≤ second := by
  have wellFormed : ∀ id r, threeAnchors.resolve? id = some r → r.WellFormed := by
    intro id r resolved
    refine of_resolve?_eq_some (fun entry mem => ?_) resolved
    fin_cases mem
    · exact ⟨by decide, by decide, by decide⟩
    · exact ⟨by decide, by decide, by decide⟩
    · exact .ofLine 4
  have moves : ∀ x ∈ [Change.deleteLines 2 2, .insertLines 2 1], x.MovesLines := by
    simp [Change.MovesLines]
  exact ⟨wellFormed, moves, rfl, rfl,
    (changes_keep_order wellFormed moves).2.2 2 3 3 4 rfl rfl (by decide)⟩

/-! ## Undoing -/

/-- The range of an anchor after lines were inserted and deleted again. -/
theorem resolve?_undone (before count : Nat)
    (forward : ∀ r, a.resolve? id = some r → r.startLine ≤ r.endLine) :
    ((a.insertLines before count).deleteLines before count).resolve? id =
      (a.resolve? id).map fun r =>
        if count ≠ 0 ∧ r.startLine = before ∧ r.endLine = before then .ofLine before else r := by
  rw [deleteLines, resolve?_mapRanges, insertLines, resolve?_mapRanges, Option.map_map]
  exact Option.map_congr fun r found => LineRange.deleteLines_insertLines (forward r found) _ _

/-- Undoing an insertion restores all anchors, if they are at the starts of lines. -/
theorem Lined.resolve?_undone (lined : a.Lined) (before count : Nat) (id : AnchorId) :
    ((a.insertLines before count).deleteLines before count).resolve? id = a.resolve? id := by
  have line : ∀ r, a.resolve? id = some r → r.IsLine := fun _ => of_resolve?_eq_some lined
  have forward : ∀ r, a.resolve? id = some r → r.startLine ≤ r.endLine := by
    intro r found
    rw [line r found]
    rfl
  rw [Anchors.resolve?_undone before count forward]
  refine (Option.map_congr fun r found => ?_).trans Option.map_id'
  split_ifs with here
  · rw [← here.2.1]
    exact (line r found).symm
  · rfl

/-- **What undoing an insertion restores.** If the range of an anchor does not end before the line
at which it starts, then deleting the lines that were just inserted brings its lines back. Its
columns come back, too, exactly if no line was inserted, or the range is not inside the one line
before which lines were inserted, or is at the start of that line. Otherwise the anchor comes to be
at the start of that line. -/
theorem undo_restores_iff (forward : ∀ r, a.resolve? id = some r → r.startLine ≤ r.endLine)
    (before count : Nat) :
    let undone := (a.insertLines before count).deleteLines before count
    (undone.resolve? id).map (fun r => (r.startLine, r.endLine)) =
        (a.resolve? id).map (fun r => (r.startLine, r.endLine)) ∧
      (undone.resolve? id = a.resolve? id ↔ count = 0 ∨ ∀ r, a.resolve? id = some r →
        r.startLine = before → r.endLine = before → r = .ofLine before) ∧
      (undone.resolve? id = a.resolve? id ∨ undone.resolve? id = some (.ofLine before)) := by
  intro undone
  have moved : undone.resolve? id = _ := resolve?_undone before count forward
  cases found : a.resolve? id with
  | none =>
    rw [found, Option.map_none] at moved
    rw [moved]
    exact ⟨rfl, iff_of_true rfl (.inr fun _ absent => nomatch absent), .inl rfl⟩
  | some r =>
    rw [found, Option.map_some] at moved
    rw [moved]
    simp only [Option.map_some, Option.some.injEq, forall_eq']
    split_ifs with here
    · obtain ⟨some_inserted, start, finish⟩ := here
      refine ⟨by rw [start, finish]; rfl, ?_, .inr rfl⟩
      rw [or_iff_right some_inserted]
      exact ⟨fun same _ _ => same.symm, fun same => (same start finish).symm⟩
    · refine ⟨rfl, iff_of_true rfl ?_, .inl rfl⟩
      by_contra lost
      push Not at lost
      exact here ⟨lost.1, lost.2.1, lost.2.2.1⟩

/-- A range over lines, with columns at both ends, comes back as it was. -/
theorem undo_restores_iff_threeAnchors :
    (∀ r, threeAnchors.resolve? 1 = some r → r.startLine ≤ r.endLine) ∧
      ((threeAnchors.insertLines 3 2).deleteLines 3 2).resolve? 1 = threeAnchors.resolve? 1 := by
  have forward : ∀ r, threeAnchors.resolve? 1 = some r → r.startLine ≤ r.endLine := by
    intro r found
    cases found
    decide
  refine ⟨forward, (undo_restores_iff forward 3 2).2.1.mpr (.inr fun r found starts => ?_)⟩
  cases found
  cases starts

/-- **Undoing an insertion may lose columns.** A range inside the line before which a line was
inserted is moved to the start of that line when the inserted one is deleted. -/
theorem undo_loses_columns :
    threeAnchors.resolve? 2 = some ⟨3, 5, 3, 9⟩ ∧
      ((threeAnchors.insertLines 3 1).deleteLines 3 1).resolve? 2 = some (.ofLine 3) := by
  decide

end Anchors

end StepScript
