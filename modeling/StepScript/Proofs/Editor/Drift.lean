import StepScript.Proofs.Editor.Interference
import StepScript.Proofs.Editor.Reporting
import StepScript.Proofs.Editor.Session
import StepScript.Proofs.Marker.Drift
import StepScript.Proofs.Marker.Store

/-!
# What an edit reports

**Ranges and lines.** The check after an edit compares ranges: the one where a verified marker was
last seen, and the one where its anchor is now. In an editor that can be reached the first is the
range of the anchor before the edit (`Editor.inStep_after`), and every anchor is at the start of a
line (`Editor.lined_after`), so a range is another one exactly if its line is. So the check finds a
marker exactly if the line of a verified one has changed (`Editor.drifted_movedBy_iff`).

**Events.** An edit announces itself, and then gives the list that the check found
(`Editor.outbox_edit`). That is the list that the editor would give after it, and every marker has
its line there, whatever its state (`Editor.edit_reports_drift`).
-/

namespace StepScript

open Anchors LineRange

/-! ## What an editor does to its store -/

namespace Editor

variable {e left : Editor}

/-- An edit. -/
theorem reworked_edit (e : Editor) (change : Edit) :
    e.markers.anchors.Reworked (e.edit change).markers.anchors := by
  rw [e.markers_edit change]
  exact e.markers.reworked_replaceLines _ _ _

/-- **Every action** that is carried out. -/
theorem reworked_perform {action : Action} (performed : e.perform action = .ok left) :
    e.markers.anchors.Reworked left.markers.anchors := by
  have tables {context : Except Failure Context}
      (performed : (do return e.withContext (← context)) = .ok left) :
      e.markers.anchors.Reworked left.markers.anchors := by
    obtain ⟨c, -, changed⟩ := Failure.bind_eq_ok performed
    cases changed
    exact .refl
  cases action with
  | setContent text =>
    cases performed
    exact reworked_edit { e with document := e.document.withEndingsOf text } _
  | edit change => cases performed; exact e.reworked_edit change
  | decorate payload =>
    obtain ⟨list, -, changed⟩ := Failure.bind_eq_ok performed
    cases changed
    exact e.markers.breakpoints.reworked_decorate _ list
  | toggle line => cases performed; exact e.markers.breakpoints.reworked_toggle _ line
  | hover line => cases performed; exact e.markers.breakpoints.reworked_hover _ line
  | flush =>
    cases performed
    rw [Editor.flush, markers_report]
    exact .refl
  | execute command =>
    cases performed
    cases command with
    | toggleBreakpoint => exact e.markers.breakpoints.reworked_toggle _ e.cursor
    | _ => exact .refl
  | highlight style payload =>
    obtain ⟨lines, -, changed⟩ := Failure.bind_eq_ok performed
    cases changed
    exact e.markers.highlights.reworked_set _ style lines
  | setErrorLinks payload =>
    obtain ⟨links, -, changed⟩ := Failure.bind_eq_ok performed
    cases changed
    exact .refl
  | showError line data text => cases performed; exact .create line
  | showCode line data text => cases performed; exact .create line
  | clearErrors => cases performed; exact .removeAll _
  | clear => cases performed; exact (Reworked.removeAll _).trans (.removeAll _)
  | setKeywords payload => exact tables performed
  | setElements payload clear => exact tables performed
  | setVariables payload clear => exact tables performed
  | setStepList payload clear => exact tables performed
  | setSyntaxMessage message => cases performed; exact .refl
  | setCursor line => cases performed; exact .refl

/-- Every call. -/
theorem reworked_call (e : Editor) (c : Call) :
    e.markers.anchors.Reworked (e.call c).markers.anchors := by
  cases c with
  | act action => exact leftBy_of_perform .refl fun left performed => reworked_perform performed
  | highlight style lines => exact e.markers.highlights.reworked_set _ style lines
  | drain => exact .refl

/-- **In every editor that can be reached** each anchor is at the start of a line. -/
theorem lined_after (context : Context) (calls : List Call) :
    ((ofContext context).after calls).markers.anchors.Lined := by
  refine after_invariant (P := fun e => e.markers.anchors.Lined) ?_ ?_ calls
  · exact fun e c lined => (e.reworked_call c).lined lined
  · exact fun entry mem => absurd mem List.not_mem_nil

/-! ## What the check finds -/

/-- In every editor that can be reached the markers agree with some record. -/
theorem inStep_after (context : Context) (calls : List Call) :
    ∃ record, ((ofContext context).after calls).markers.InStep record := by
  refine after_invariant (P := fun e => ∃ record, e.markers.InStep record) ?_ ⟨[], .empty⟩ calls
  rintro e c ⟨record, inStep⟩
  cases c with
  | act action =>
    refine leftBy_of_perform (P := fun e => ∃ record, e.markers.InStep record) ⟨record, inStep⟩ ?_
    intro left performed
    obtain ⟨report, -, kept⟩ := keeps_perform inStep performed
    exact ⟨_, kept⟩
  | highlight style lines =>
    exact ⟨record, inStep.onHighlights (e.markers.highlights.exchange_set _ style lines)⟩
  | drain => exact ⟨record, inStep⟩

/-- An edit moves the line of a verified marker. -/
def MovesVerified (e : Editor) (change : Edit) : Prop :=
  ∃ k ∈ e.markers.breakpoints.markers, k.state = .verified ∧
    (e.edit change).markers.anchors.line? k.anchor ≠ e.markers.anchors.line? k.anchor

/-- An edit moves anchors, and leaves the markers on them. -/
theorem breakpoints_movedBy (e : Editor) (change : Edit) :
    (e.movedBy change).breakpoints = e.markers.breakpoints :=
  Markers.breakpoints_replaceLines _ _ _ _

/-- The check does not touch the anchors that the edit has moved. -/
theorem anchors_edit (e : Editor) (change : Edit) :
    (e.edit change).markers.anchors = (e.movedBy change).anchors := by
  rw [e.markers_edit change]
  rfl

/-- An edit moves every marker that is somewhere, and none away. -/
theorem line?_movedBy (e : Editor) (change : Edit) (id : AnchorId) :
    (e.movedBy change).anchors.line? id =
      (e.markers.anchors.line? id).map (change.within e.lineCount).lineAfter :=
  e.markers.line?_replaceLines (change.within e.lineCount) id

/-- **The check compares lines**: it finds a marker exactly if the edit has moved the line of a
verified one. -/
theorem drifted_movedBy_iff (seen : e.markers.breakpoints.Seen e.markers.anchors)
    (lined : e.markers.anchors.Lined) (change : Edit) :
    (e.movedBy change).Drifted ↔ e.MovesVerified change := by
  have lined' : (e.movedBy change).anchors.Lined :=
    (e.markers.reworked_replaceLines _ _ _).lined lined
  rw [Markers.Drifted, MovesVerified, e.breakpoints_movedBy change, e.anchors_edit change]
  constructor
  · rintro ⟨k, mem, verified, range, found, moved⟩
    refine ⟨k, mem, verified, fun still => moved ?_⟩
    -- on the same line the anchor would have the same range
    have unmoved := congrArg (Option.map LineRange.ofLine) still
    rw [← lined'.resolve?_eq, ← lined.resolve?_eq, found, seen k mem verified] at unmoved
    exact Option.some.inj unmoved
  · rintro ⟨k, mem, verified, moved⟩
    have before : e.markers.anchors.line? k.anchor = some k.seen.startLine := by
      rw [line?, seen k mem verified]
      rfl
    have after := e.line?_movedBy change k.anchor
    rw [before, Option.map_some] at after
    refine ⟨k, mem, verified, _, (lined'.resolve?_eq k.anchor).trans (by rw [after]; rfl), ?_⟩
    refine fun back => moved ?_
    rw [before, after]
    exact congrArg (fun range => some (startLine range)) back

/-! ## What is queued -/

/-- After an edit the breakpoints are those at the lines where it has taken the markers. -/
theorem canonical_edit (e : Editor) (change : Edit) :
    (e.edit change).markers.canonical =
      e.markers.breakpoints.canonical (e.movedBy change).anchors := by
  rw [e.markers_edit change, ← e.breakpoints_movedBy change]
  exact (e.movedBy change).breakpoints.canonical_checkDrift _

/-- Every marker has its line there, verified or not. -/
theorem exists_mem_canonical_edit (owned : e.markers.Owned) (change : Edit) {k : Marker}
    (mem : k ∈ e.markers.breakpoints.markers) :
    ∃ x ∈ (e.edit change).markers.canonical,
      (e.edit change).markers.anchors.line? k.anchor = some x.line := by
  have live : (e.markers.anchors.line? k.anchor).isSome := by
    rw [line?, Option.isSome_map, isSome_resolve?]
    exact owned.mem_ids_of_mem_markers mem
  obtain ⟨line, before⟩ := Option.isSome_iff_exists.mp live
  have after := e.line?_movedBy change k.anchor
  rw [before, Option.map_some] at after
  obtain ⟨x, listed, here⟩ := (Breakpoints.exists_mem_canonical_iff _ _ _).mpr
    ((Breakpoints.isSome_stateAt?_iff _ _).mpr ⟨k, mem, after⟩)
  rw [e.canonical_edit change, e.anchors_edit change]
  exact ⟨x, listed, after.trans (congrArg some here.symm)⟩

/-- An edit announces itself, and then gives the list that the check found. -/
theorem outbox_edit (e : Editor) (change : Edit) :
    (e.edit change).outbox = e.outbox ++ .contentDidChange ::
      ((e.movedBy change).checkDrift.1.map Event.updateBreakpoints).toList := by
  have reported (editor : Editor) (list : Option (List Breakpoint)) :
      (editor.report list).outbox = editor.outbox ++ (list.map Event.updateBreakpoints).toList := by
    cases list with
    | none => exact (List.append_nil _).symm
    | some list => rfl
  unfold edit
  refine (reported _ _).trans ?_
  rw [List.append_cons]
  rfl

/-- **Drift is reported once, and only for verified markers.** In an editor that can be reached, an
edit queues that the document has changed. If it moves the line of a verified marker, it also queues
the list of breakpoints as they are after it, and nothing is pending then; the list has the line of
every marker, verified or not. If it moves none, it queues nothing else, and what was pending still
is. And a check right after a check finds nothing and changes nothing. -/
theorem edit_reports_drift :
    (∀ (context : Context) (calls : List Call) (change : Edit),
      let e := (ofContext context).after calls
      let after := e.edit change
      (e.MovesVerified change →
        after.outbox =
          e.outbox ++ [.contentDidChange, .updateBreakpoints after.markers.canonical] ∧
        after.pending = false ∧
        ∀ k ∈ e.markers.breakpoints.markers, ∃ x ∈ after.markers.canonical,
          after.markers.anchors.line? k.anchor = some x.line) ∧
      (¬ e.MovesVerified change →
        after.outbox = e.outbox ++ [.contentDidChange] ∧ after.pending = e.pending)) ∧
    ∀ (b : Breakpoints) (a : Anchors),
      (b.checkDrift a).2.checkDrift a = (none, (b.checkDrift a).2) := by
  refine ⟨fun context calls change => ?_, fun b a => b.checkDrift_checkDrift a⟩
  intro e after
  obtain ⟨record, inStep⟩ := inStep_after context calls
  have found : (e.movedBy change).Drifted ↔ e.MovesVerified change :=
    drifted_movedBy_iff inStep.seen (lined_after context calls) change
  have markers : after.markers = (e.movedBy change).checkDrift.2 := e.markers_edit change
  have queued := e.outbox_edit change
  refine ⟨fun moves => ?_, fun stays => ?_⟩
  · obtain ⟨reported, settled⟩ := Markers.checkDrift_of_drifted (found.mpr moves)
    rw [reported, ← markers] at queued
    refine ⟨queued, by rw [pending, markers, settled], fun k mem => ?_⟩
    exact exists_mem_canonical_edit inStep.owned change mem
  · obtain ⟨unreported, same⟩ := Markers.checkDrift_of_not_drifted (mt found.mp stays)
    rw [unreported] at queued
    refine ⟨queued, ?_⟩
    rw [pending, markers, same]
    exact congrArg Breakpoints.pending (e.breakpoints_movedBy change)

/-- A breakpoint from the host on the last of three lines, and one from the user on the first. -/
def markedByBoth : List Call :=
  [.act (.setContent "a\nb\nc".toList),
    .act (.decorate "[\x7b\"lineNumber\":3,\"enable\":false\x7d]".toList), .act (.toggle 1)]

/-- If a line is inserted between them, both are reported and the toggle no longer waits. If the
first line gives way to another, nothing is reported and the toggle waits on. -/
theorem edit_reports_drift_markedByBoth :
    ((ofContext default).after markedByBoth).MovesVerified ⟨2, 0, [[]]⟩ ∧
      (((ofContext default).after markedByBoth).edit ⟨2, 0, [[]]⟩).outbox =
        [.contentDidChange, .contentDidChange, .updateBreakpoints [⟨1, true⟩, ⟨4, false⟩]] ∧
      ¬ ((ofContext default).after markedByBoth).MovesVerified ⟨1, 1, [[]]⟩ ∧
      (((ofContext default).after markedByBoth).edit ⟨1, 1, [[]]⟩).pending = true := by
  set e := (ofContext default).after markedByBoth
  have moves : e.MovesVerified ⟨2, 0, [[]]⟩ := by
    unfold MovesVerified
    decide +kernel
  have stays : ¬ e.MovesVerified ⟨1, 1, [[]]⟩ := by
    unfold MovesVerified
    decide +kernel
  have breakpoints : (e.edit ⟨2, 0, [[]]⟩).markers.canonical = [⟨1, true⟩, ⟨4, false⟩] := by
    rw [canonical_edit, Breakpoints.canonical_eq_ofList]
    decide +kernel
  have reported := ((edit_reports_drift.1 default markedByBoth ⟨2, 0, [[]]⟩).1 moves).1
  have waits := ((edit_reports_drift.1 default markedByBoth ⟨1, 1, [[]]⟩).2 stays).2
  refine ⟨moves, ?_, stays, waits.trans (by decide +kernel)⟩
  rw [reported, breakpoints]
  decide +kernel

end Editor

end StepScript
