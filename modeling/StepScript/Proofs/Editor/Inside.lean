import StepScript.Proofs.Editor.Drift
import StepScript.Proofs.Editor.Numbering

/-!
# Breakpoints and the end of the document

**Where they are.** A line has a breakpoint if a marker is on it (`Editor.HasBreakpoint`). An edit
takes each such line to where it takes the line, and makes no other (`Editor.hasBreakpoint_edit`).

**Where they may end up.** A line that is deleted without a counterpart falls on the line that takes
its place. If the deleted lines were the last ones, no line does, and what was on them falls behind
the end, by one line at most. So breakpoints stay inside the document exactly if the edit leaves a
line behind the lines that it replaces, or no breakpoint was on a line that is deleted without a
counterpart (`Editor.edit_keeps_inside_iff`). If the document is replaced by a shorter one, those
stay inside that are on a line of the new one. What is reported is what there is, so a report may
name the line behind the last one (`Editor.reported_behind_end`).
-/

namespace StepScript

/-- An edit that is brought inside a document starts in it or right behind it, and deletes no line
behind it. -/
theorem Edit.within_inside (change : Edit) (count : Nat) :
    1 ≤ (change.within count).start ∧
      (change.within count).start + (change.within count).deleted ≤ count + 1 := by
  have first : 1 ≤ (change.within count).start := Nat.le_max_left _ _
  have start : (change.within count).start ≤ count + 1 :=
    Nat.max_le.mpr ⟨Nat.le_add_left _ _, Nat.min_le_right _ _⟩
  have deleted : (change.within count).deleted ≤ count + 1 - (change.within count).start :=
    Nat.min_le_right _ _
  omega

namespace Editor

/-- A marker is on the line. -/
def HasBreakpoint (e : Editor) (line : Nat) : Prop := (e.markers.stateAt? line).isSome

/-- Every breakpoint is on a line of the document. -/
def BreakpointsInside (e : Editor) : Prop :=
  ∀ line, e.HasBreakpoint line → 1 ≤ line ∧ line ≤ e.lineCount

variable {e : Editor}

/-- The lines with breakpoints are those that are reported. -/
theorem hasBreakpoint_iff (line : Nat) :
    e.HasBreakpoint line ↔ ∃ x ∈ e.markers.canonical, x.line = line :=
  (e.markers.breakpoints.exists_mem_canonical_iff e.markers.anchors line).symm

/-- An edit takes the breakpoint of each line to where it takes the line. -/
theorem hasBreakpoint_edit (change : Edit) (line' : Nat) :
    (e.edit change).HasBreakpoint line' ↔
      ∃ line, e.HasBreakpoint line ∧ (change.within e.lineCount).lineAfter line = line' := by
  rw [hasBreakpoint_iff, canonical_edit, Breakpoints.exists_mem_canonical_iff,
    Breakpoints.isSome_stateAt?_iff]
  simp only [line?_movedBy, Option.map_eq_some_iff, HasBreakpoint, Markers.stateAt?,
    Breakpoints.isSome_stateAt?_iff]
  constructor
  · rintro ⟨k, mem, line, here, moved⟩
    exact ⟨line, ⟨k, mem, here⟩, moved⟩
  · rintro ⟨line, ⟨k, mem, here⟩, moved⟩
    exact ⟨k, mem, line, here, moved⟩

/-- An edit changes the number of lines by what it inserts and deletes. -/
theorem lineCount_edit (e : Editor) (change : Edit) :
    (e.edit change).lineCount + (change.within e.lineCount).deleted =
      e.lineCount + change.inserted.length := by
  obtain ⟨first, last⟩ := change.within_inside e.lineCount
  have inserted : (change.within e.lineCount).inserted = change.inserted := rfl
  have count : e.lineCount = e.document.lines.length := rfl
  rw [lineCount, document_edit, Document.lineCount, Document.apply, inserted, List.length_append,
    List.length_append, List.length_take, List.length_drop]
  omega

/-- What an edit reports are the breakpoints that there are after it. -/
theorem eq_canonical_of_mem_queued {change : Edit} {list : List Breakpoint}
    (queued : Event.updateBreakpoints list ∈ (e.edit change).outbox.drop e.outbox.length) :
    list = (e.edit change).markers.canonical := by
  rw [outbox_edit, List.drop_left, List.mem_cons, Option.mem_toList, Option.map_eq_some_iff]
    at queued
  rcases queued with other | ⟨found, reported, same⟩
  · exact nomatch other
  · obtain rfl : found = list := Event.updateBreakpoints.inj same
    by_cases drifted : (e.movedBy change).Drifted
    · have all := (Markers.checkDrift_of_drifted drifted).1
      rw [reported] at all
      rw [e.markers_edit change]
      exact Option.some.inj all
    · exact nomatch reported.symm.trans (Markers.checkDrift_of_not_drifted drifted).1

/-! ## The end of the document -/

/-- An edit leaves breakpoints behind the end by one line at most. -/
theorem hasBreakpoint_edit_le (inside : e.BreakpointsInside) (change : Edit) {line : Nat}
    (here : (e.edit change).HasBreakpoint line) :
    1 ≤ line ∧ line ≤ (e.edit change).lineCount + 1 := by
  obtain ⟨before, there, rfl⟩ := (hasBreakpoint_edit change line).mp here
  have was := inside before there
  have count := e.lineCount_edit change
  have size : (change.within e.lineCount).inserted.length = change.inserted.length := rfl
  obtain ⟨first, last⟩ := change.within_inside e.lineCount
  rw [Edit.lineAfter]
  split_ifs <;> omega

/-- **Breakpoints stay inside the document** exactly if a line is left behind those that the edit
replaces, or each breakpoint was before the lines that are deleted without a counterpart. -/
theorem breakpointsInside_edit_iff (inside : e.BreakpointsInside) (change : Edit) :
    (e.edit change).BreakpointsInside ↔
      (change.within e.lineCount).start + (change.within e.lineCount).deleted ≤ e.lineCount ∨
        ∀ line, e.HasBreakpoint line →
          line < (change.within e.lineCount).start + change.inserted.length := by
  have count := e.lineCount_edit change
  have size : (change.within e.lineCount).inserted.length = change.inserted.length := rfl
  obtain ⟨first, last⟩ := change.within_inside e.lineCount
  constructor
  · intro after
    refine or_iff_not_imp_left.mpr fun to_end line here => ?_
    by_contra surplus
    -- the line behind the last one is where such a breakpoint falls
    have was := inside line here
    have falls : (change.within e.lineCount).lineAfter line =
        (change.within e.lineCount).start + change.inserted.length :=
      Edit.lineAfter_of_surplus (by omega) (by omega)
    have is := after _ ((hasBreakpoint_edit change _).mpr ⟨line, here, falls⟩)
    omega
  · rintro room line' here
    obtain ⟨line, there, rfl⟩ := (hasBreakpoint_edit change line').mp here
    have was := inside line there
    have lower := room.imp_right fun all => all line there
    rw [Edit.lineAfter]
    split_ifs <;> omega

/-- **When breakpoints stay inside the document.** All of them are inside, and lines are replaced:
of the edit, `s` is the first line, brought inside the document, `d` the number of lines that are
there to delete, and `k` the number of inserted lines. They are inside after it exactly if a line is
left behind the replaced ones, or none was on or behind line `s + k`. Else some are on the line
behind the last one, and none is elsewhere outside. What is reported are the breakpoints after the
edit. If the document is replaced by a text, they are inside exactly if the text has as many
lines. -/
theorem edit_keeps_inside_iff (e : Editor) (inside : e.BreakpointsInside) :
    (∀ change : Edit,
      let s := max 1 (min change.start (e.lineCount + 1))
      let d := min change.deleted (e.lineCount + 1 - s)
      let k := change.inserted.length
      let after := e.edit change
      (after.BreakpointsInside ↔
        s + d ≤ e.lineCount ∨ ∀ line, e.HasBreakpoint line → line < s + k) ∧
      (∀ line, after.HasBreakpoint line → 1 ≤ line ∧ line ≤ after.lineCount + 1) ∧
      ∀ list, Event.updateBreakpoints list ∈ after.outbox.drop e.outbox.length →
        ∀ line, (∃ x ∈ list, x.line = line) ↔ after.HasBreakpoint line) ∧
    ∀ t : Text, (e.setContent t).BreakpointsInside ↔
      ∀ line, e.HasBreakpoint line → line ≤ t.lines.length := by
  refine ⟨fun change => ?_, fun t => ?_⟩
  · intro s d k after
    refine ⟨breakpointsInside_edit_iff inside change,
      fun line here => hasBreakpoint_edit_le inside change here, fun list queued line => ?_⟩
    rw [eq_canonical_of_mem_queued queued, hasBreakpoint_iff]
  · set bare : Editor := { e with document := e.document.withEndingsOf t }
    have same : e.setContent t = bare.edit (e.document.replaceAll t) := rfl
    have whole := breakpointsInside_edit_iff (e := bare) inside (e.document.replaceAll t)
    have all : (e.document.replaceAll t).within e.lineCount = ⟨1, e.lineCount, t.lines⟩ :=
      e.document.within_replaceAll t
    have lines : bare.lineCount = e.lineCount := rfl
    have inserted : (e.document.replaceAll t).inserted = t.lines := rfl
    simp only [lines, all, inserted] at whole
    rw [same, whole, or_iff_right (by omega)]
    exact forall₂_congr fun line _ => by rw [Nat.add_comm, Nat.lt_succ_iff]

/-- Three lines, and a breakpoint from the host on the last one. -/
def lastLineMarked : List Call :=
  [.act (.setContent "a\nb\nc".toList),
    .act (.decorate "[\x7b\"lineNumber\":3,\"enable\":true\x7d]".toList)]

/-- Its breakpoint is inside. -/
theorem inside_lastLineMarked :
    ((ofContext default).after lastLineMarked).BreakpointsInside ∧
      ((ofContext default).after lastLineMarked).HasBreakpoint 3 := by
  set e := (ofContext default).after lastLineMarked
  have count : e.lineCount = 3 := by decide +kernel
  have breakpoints : e.markers.canonical = [⟨3, true⟩] := by
    rw [Markers.canonical, Breakpoints.canonical_eq_ofList]
    decide +kernel
  have marked (line : Nat) : e.HasBreakpoint line ↔ 3 = line := by
    rw [hasBreakpoint_iff, breakpoints]
    simp
  refine ⟨fun line here => ?_, (marked 3).mpr rfl⟩
  rw [← (marked line).mp here, count]
  decide

/-- It stays inside if the line before it is deleted, and does not if the document is shortened. -/
theorem edit_keeps_inside_iff_lastLine :
    ((ofContext default).after lastLineMarked).BreakpointsInside ∧
      (((ofContext default).after lastLineMarked).edit ⟨2, 1, []⟩).BreakpointsInside ∧
      ¬ (((ofContext default).after lastLineMarked).setContent
        "x\ny".toList).BreakpointsInside := by
  obtain ⟨inside, marked⟩ := inside_lastLineMarked
  obtain ⟨edits, replacements⟩ := edit_keeps_inside_iff _ inside
  refine ⟨inside, (edits ⟨2, 1, []⟩).1.mpr (.inl (by decide +kernel)), fun stays => ?_⟩
  have short := (replacements _).mp stays 3 marked
  exact absurd short (by decide +kernel)

/-- **A report may name a line that does not exist**: if the lines from the second on are deleted,
the breakpoint of the third is reported behind the only line that is left. -/
theorem reported_behind_end :
    ((ofContext default).after lastLineMarked).BreakpointsInside ∧
      (((ofContext default).after lastLineMarked).edit ⟨2, 2, []⟩).lineCount = 1 ∧
      (((ofContext default).after lastLineMarked).edit ⟨2, 2, []⟩).outbox =
        [.contentDidChange, .contentDidChange, .updateBreakpoints [⟨2, true⟩]] ∧
      ¬ (((ofContext default).after lastLineMarked).edit ⟨2, 2, []⟩).BreakpointsInside := by
  set e := (ofContext default).after lastLineMarked
  have drifted : (e.movedBy ⟨2, 2, []⟩).Drifted :=
    Markers.any_hasDrifted_iff.mp (by decide +kernel)
  have reported : (e.edit ⟨2, 2, []⟩).markers.canonical = [⟨2, true⟩] := by
    rw [canonical_edit, Breakpoints.canonical_eq_ofList]
    decide +kernel
  have count : (e.edit ⟨2, 2, []⟩).lineCount = 1 := by decide +kernel
  refine ⟨inside_lastLineMarked.1, count, ?_, fun inside => ?_⟩
  · have markers : (e.movedBy ⟨2, 2, []⟩).checkDrift.2 = (e.edit ⟨2, 2, []⟩).markers :=
      (e.markers_edit ⟨2, 2, []⟩).symm
    rw [outbox_edit, (Markers.checkDrift_of_drifted drifted).1, markers, reported]
    decide +kernel
  · have behind := inside 2 ((hasBreakpoint_iff 2).mpr ⟨⟨2, true⟩, by rw [reported]; simp, rfl⟩)
    rw [count] at behind
    exact absurd behind.2 (by decide)

end Editor

end StepScript
