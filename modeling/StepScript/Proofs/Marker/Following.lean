import Mathlib
import StepScript.Editor
import StepScript.Proofs.Marker.Exchange

/-!
# Attachments follow their text

**What is attached.** Breakpoints, the hint, highlights and panels are attached to lines through
anchors. `Markers.attachments` lists all of them with everything that does not depend on the place,
and `Markers.attached` adds the line where each is now, as far as its anchor is live.

**Where an edit takes a line.** The anchors are moved by two operations, one for lines that are
inserted and one for lines that are deleted, and an edit uses at most one of them, for the lines
that it has in excess. `Edit.lineAfter` is what comes of it: lines before the edit stay, lines after
it move by the difference, and of the replaced lines those without a counterpart fall on the first
line after the inserted ones (`Markers.line?_replaceLines`).

**The document.** Text outside the replaced lines moves by the same rule
(`Document.line?_apply_of_lt`, `Document.line?_apply_of_le`), so what was attached to a line that is
not replaced is still attached to its text (`Editor.edit_moves_attached`). Nothing is attached or taken
off by an edit: the check for moved breakpoints only drops markers whose anchor is gone
(`Markers.attached_checkDrift`).
-/

namespace StepScript

/-! ## Where an edit takes a line -/

namespace Edit

/-- The line after an edit inside the document. A replaced line without a counterpart falls on the
first line after the inserted ones. -/
def lineAfter (change : Edit) (line : Nat) : Nat :=
  if change.start + change.deleted ≤ line then line + change.inserted.length - change.deleted
  else min line (change.start + change.inserted.length)

variable {change : Edit} {line : Nat}

/-- Lines before an edit, and replaced lines with a counterpart, stay. -/
theorem lineAfter_of_lt
    (before : line < change.start + min change.deleted change.inserted.length) :
    change.lineAfter line = line := by
  rw [lineAfter, if_neg (by omega)]
  exact Nat.min_eq_left (by omega)

/-- Lines after the replaced ones move by the difference. -/
theorem lineAfter_of_le (behind : change.start + change.deleted ≤ line) :
    change.lineAfter line = line + change.inserted.length - change.deleted := if_pos behind

/-- Replaced lines without a counterpart fall on the first line after the inserted ones. -/
theorem lineAfter_of_surplus (lower : change.start + change.inserted.length ≤ line)
    (upper : line < change.start + change.deleted) :
    change.lineAfter line = change.start + change.inserted.length := by
  rw [lineAfter, if_neg (by omega)]
  exact Nat.min_eq_right lower

end Edit

namespace LineRange

variable (r : LineRange) (count : Nat)

/-- Inserting lines moves the start of a range that starts behind them. -/
theorem startLine_insertLines (before : Nat) :
    (r.insertLines before count).startLine =
      if before ≤ r.startLine then r.startLine + count else r.startLine := by
  unfold insertLines
  split_ifs <;> rfl

/-- Deleting lines moves the start of a range as it moves a line. -/
theorem startLine_deleteLines (start : Nat) :
    (r.deleteLines start count).startLine = lineAfterDelete start count r.startLine := by
  unfold deleteLines
  by_cases none_deleted : count = 0
  · rw [if_pos none_deleted, none_deleted, lineAfterDelete]
    split_ifs <;> omega
  · rw [if_neg none_deleted]
    simp only
    split_ifs with collapsed
    · exact collapsed.2.1.symm
    · rfl

end LineRange

namespace Anchors

variable (a : Anchors) (id : AnchorId)

/-- If the start of every range is moved by a function of lines, then so is the line of every
anchor. -/
theorem line?_mapRanges {f : LineRange → LineRange} {move : Nat → Nat}
    (start : ∀ r : LineRange, (f r).startLine = move r.startLine) :
    (a.mapRanges f).line? id = (a.line? id).map move := by
  rw [line?, line?, resolve?_mapRanges, Option.map_map, Option.map_map]
  congr 1
  funext r
  exact start r

end Anchors

namespace Markers

variable (m : Markers)

/-- **An edit moves every anchor by one rule**, however many lines it deletes and inserts. -/
theorem line?_replaceLines (change : Edit) (id : AnchorId) :
    (m.replaceLines change.start change.deleted change.inserted.length).anchors.line? id =
      (m.anchors.line? id).map change.lineAfter := by
  unfold replaceLines
  simp only
  split_ifs with fewer more
  · refine m.anchors.line?_mapRanges id fun r => ?_
    rw [LineRange.startLine_deleteLines, LineRange.lineAfterDelete, Edit.lineAfter]
    split_ifs <;> omega
  · refine m.anchors.line?_mapRanges id fun r => ?_
    rw [LineRange.startLine_insertLines, Edit.lineAfter]
    split_ifs <;> omega
  · have still : change.lineAfter = fun line => line := by
      funext line
      rw [Edit.lineAfter]
      split_ifs <;> omega
    rw [still, Option.map_id']

end Markers

/-! ## What is attached -/

/-- What may be attached to a line, without its place. -/
inductive Attachment where
  | breakpoint (enabled : Bool) (state : MarkerState)
  | hint
  | highlight (style : Text)
  | panel (data text : Text) (content : PanelContent)
  deriving DecidableEq, Repr

/-- A marker as an attachment, with its anchor. -/
def Marker.attachment (k : Marker) : AnchorId × Attachment :=
  (k.anchor, .breakpoint k.enabled k.state)

namespace Breakpoints

variable (b : Breakpoints) (a : Anchors)

/-- The check after an edit drops the markers whose anchor is gone, and changes of the others at
most the range at which they were seen. -/
theorem attachment_checkDrift :
    (b.checkDrift a).2.markers.map Marker.attachment =
      (b.markers.filter fun k => (a.resolve? k.anchor).isSome).map Marker.attachment := by
  unfold checkDrift
  simp only
  split
  · rw [List.map_map]
    rfl
  · rfl

/-- The check after an edit leaves the hint alone. -/
theorem hint_checkDrift : (b.checkDrift a).2.hint = b.hint := by
  unfold checkDrift
  simp only
  split <;> rfl

end Breakpoints

namespace Markers

variable (m : Markers)

/-- What is attached, with its anchors. -/
def attachments (m : Markers) : List (AnchorId × Attachment) :=
  m.breakpoints.markers.map Marker.attachment ++
    (m.breakpoints.hint.toList.map (·, .hint) ++
      (m.highlights.entries.map (fun h => (h.anchor, .highlight h.style)) ++
        m.panels.list.map fun p => (p.anchor, .panel p.data p.text p.content)))

/-- An attachment with the line where it is now. It is nowhere if its anchor is gone. -/
def place? (m : Markers) (x : AnchorId × Attachment) : Option ((AnchorId × Attachment) × Nat) :=
  (m.anchors.line? x.1).map fun line => (x, line)

/-- What is attached and where it is now. -/
def attached (m : Markers) : List ((AnchorId × Attachment) × Nat) :=
  m.attachments.filterMap m.place?

/-- An edit changes only the anchors. -/
theorem breakpoints_replaceLines (start deleted inserted : Nat) :
    (m.replaceLines start deleted inserted).breakpoints = m.breakpoints := by
  unfold replaceLines
  simp only
  split_ifs <;> rfl

/-- An edit changes only the anchors. -/
theorem attachments_replaceLines (start deleted inserted : Nat) :
    (m.replaceLines start deleted inserted).attachments = m.attachments := by
  unfold replaceLines
  simp only
  split_ifs <;> rfl

/-- An edit moves what is attached, each by the same rule, and takes nothing off. -/
theorem attached_replaceLines (change : Edit) :
    (m.replaceLines change.start change.deleted change.inserted.length).attached =
      m.attached.map fun x => (x.1, change.lineAfter x.2) := by
  rw [attached, attachments_replaceLines, attached, List.map_filterMap]
  refine List.filterMap_congr fun x _ => ?_
  rw [place?, place?, line?_replaceLines, Option.map_map, Option.map_map]
  rfl

/-- The check after an edit takes nothing off that is on a line. -/
theorem attached_checkDrift : m.checkDrift.2.attached = m.attached := by
  have markers_same :
      ((m.breakpoints.checkDrift m.anchors).2.markers.map Marker.attachment).filterMap m.place? =
        (m.breakpoints.markers.map Marker.attachment).filterMap m.place? := by
    rw [Breakpoints.attachment_checkDrift, List.filterMap_map, List.filterMap_map,
      List.filterMap_filter]
    refine List.filterMap_congr fun k _ => ?_
    cases found : m.anchors.resolve? k.anchor with
    | none => simp [place?, Marker.attachment, Anchors.line?, found]
    | some range => simp [place?]
  change ((m.breakpoints.checkDrift m.anchors).2.markers.map Marker.attachment ++
    ((m.breakpoints.checkDrift m.anchors).2.hint.toList.map (·, Attachment.hint) ++
      _)).filterMap m.place? = _
  rw [Breakpoints.hint_checkDrift, List.filterMap_append, markers_same, ← List.filterMap_append]
  rfl

end Markers

/-! ## The lines of the document -/

namespace Document

variable (d : Document)

/-- The text of a line, counted from one. -/
def line? (d : Document) (line : Nat) : Option Text :=
  if line = 0 then none else d.lines[line - 1]?

/-- Text before an edit stays on its line. -/
theorem line?_apply_of_lt {change : Edit} {line : Nat} (inside : change.start ≤ d.lineCount + 1)
    (before : line < change.start) : (d.apply change).line? line = d.line? line := by
  rw [line?, line?]
  split_ifs with zero
  · rfl
  · have long : line - 1 < (d.lines.take (change.start - 1)).length := by
      rw [List.length_take]
      have count : d.lineCount = d.lines.length := rfl
      omega
    rw [apply, List.append_assoc, List.getElem?_append_left long, List.getElem?_take_of_lt]
    omega

/-- Text after the replaced lines moves by as many lines as the edit inserts more than it
deletes. -/
theorem line?_apply_of_le {change : Edit} {line : Nat} (first : 1 ≤ change.start)
    (inside : change.start ≤ d.lineCount + 1) (after : change.start + change.deleted ≤ line) :
    (d.apply change).line? (line + change.inserted.length - change.deleted) = d.line? line := by
  have count : d.lineCount = d.lines.length := rfl
  have before : (d.lines.take (change.start - 1)).length = change.start - 1 := by
    rw [List.length_take]
    omega
  rw [line?, line?, if_neg (by omega), if_neg (by omega), apply, List.append_assoc,
    List.getElem?_append_right (by omega), List.getElem?_append_right (by omega), before,
    List.getElem?_drop]
  congr 1
  omega

end Document

namespace Editor

variable (e : Editor) (change : Edit)

/-! ## Edits of an editor -/

/-- A report changes only the outbox. -/
@[simp] theorem markers_report (list : Option (List Breakpoint)) :
    (e.report list).markers = e.markers := by
  cases list <;> rfl

/-- A report changes only the outbox. -/
@[simp] theorem document_report (list : Option (List Breakpoint)) :
    (e.report list).document = e.document := by
  cases list <;> rfl

/-- An edit moves what is attached, and then the markers are checked for what the host has to be
told. -/
theorem markers_edit :
    (e.edit change).markers =
      (e.markers.replaceLines (change.within e.lineCount).start (change.within e.lineCount).deleted
        (change.within e.lineCount).inserted.length).checkDrift.2 := by
  rw [edit, reportDrift, markers_report]
  rfl

/-- An edit is brought inside the document before it replaces lines. -/
theorem document_edit :
    (e.edit change).document = e.document.apply (change.within e.lineCount) := by
  rw [edit, reportDrift, document_report]
  rfl

/-- **Attachments follow their text.** Of the edit, `s` is the first line, brought inside the
document, `d` the number of lines that are there to delete, and `k` the number of inserted lines.
All that is attached moves by one function of lines: a line before the edit or after the replaced
lines goes where its text goes; a replaced line keeps its place if a line is inserted there, and
else goes to the first line after the inserted ones. -/
theorem edit_moves_attached (e : Editor) (change : Edit) :
    let s := max 1 (min change.start (e.lineCount + 1))
    let d := min change.deleted (e.lineCount + 1 - s)
    let k := change.inserted.length
    let after := e.edit change
    after.document.lines =
        e.document.lines.take (s - 1) ++ change.inserted ++ e.document.lines.drop (s - 1 + d) ∧
      ∃ move : Nat → Nat,
        after.markers.attached = e.markers.attached.map (fun x => (x.1, move x.2)) ∧
        (∀ l < s, move l = l ∧ after.document.line? (move l) = e.document.line? l) ∧
        (∀ l ≥ s + d, move l = l + k - d ∧
          after.document.line? (move l) = e.document.line? l) ∧
        (∀ l ≥ s, l < s + min d k → move l = l) ∧
        (∀ l ≥ s + k, l < s + d → move l = s + k) := by
  intro s d k after
  have document : after.document = e.document.apply ⟨s, d, change.inserted⟩ :=
    e.document_edit change
  refine ⟨congrArg Document.lines document, Edit.lineAfter ⟨s, d, change.inserted⟩, ?_⟩
  have first : 1 ≤ s := Nat.le_max_left _ _
  have inside : s ≤ e.document.lineCount + 1 :=
    Nat.max_le.mpr ⟨Nat.le_add_left _ _, Nat.min_le_right _ _⟩
  refine ⟨?_, fun l before => ?_, fun l behind => ?_, fun l lower upper => ?_,
    fun l lower upper => ?_⟩
  · rw [e.markers_edit change, Markers.attached_checkDrift]
    exact e.markers.attached_replaceLines ⟨s, d, change.inserted⟩
  · have stays : Edit.lineAfter ⟨s, d, change.inserted⟩ l = l :=
      Edit.lineAfter_of_lt (Nat.lt_add_right _ before)
    rw [stays, document]
    exact ⟨rfl, e.document.line?_apply_of_lt inside before⟩
  · have moves : Edit.lineAfter ⟨s, d, change.inserted⟩ l = l + k - d :=
      Edit.lineAfter_of_le behind
    rw [moves, document]
    exact ⟨rfl, e.document.line?_apply_of_le first inside behind⟩
  · exact Edit.lineAfter_of_lt upper
  · exact Edit.lineAfter_of_surplus lower upper

end Editor

end StepScript
