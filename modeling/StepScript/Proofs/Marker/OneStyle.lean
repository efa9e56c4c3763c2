import Mathlib
import StepScript.Proofs.Marker.Apart
import StepScript.Proofs.Marker.Following
import StepScript.Proofs.Marker.Styles

/-!
# When a line is in two classes

**Setting a class** takes its lines out of the others, so it puts no line into a second class
(`Markers.OneStyle.highlight`). Lines that are inserted keep apart what was apart.

**Deleting lines** may not: the deleted lines fall on the line behind them, with whatever is on
them. If a line in one class falls on a line in another one, both highlights stay, and the line is
in both classes, until a class is set on it. So no line is ever in two classes exactly if all lines
that fall together in a deletion are in one class, as far as they are in any
(`Markers.oneStyle_throughout_iff`, `Markers.two_styles_on_line`).
-/

namespace StepScript

open Anchors

namespace LineRange

/-- After a deletion two lines are one exactly if they were, or if each is deleted or the first one
behind. -/
theorem lineAfterDelete_eq_iff {start count line other : Nat} :
    lineAfterDelete start count line = lineAfterDelete start count other ↔
      line = other ∨ (start ≤ line ∧ line ≤ start + count) ∧
        start ≤ other ∧ other ≤ start + count := by
  unfold lineAfterDelete
  split_ifs <;> omega

end LineRange

namespace Markers

/-- No line is in two classes. -/
def OneStyle (m : Markers) : Prop :=
  ∀ line style other, line ∈ m.highlighted style → line ∈ m.highlighted other → style = other

/-- The lines that fall together when `count` lines from `start` are deleted are in one class, as
far as they are in any. -/
def MeetAlike (m : Markers) (start count : Nat) : Prop :=
  ∀ line second style other, start ≤ line → line ≤ start + count → start ≤ second →
    second ≤ start + count → line ∈ m.highlighted style → second ∈ m.highlighted other →
      style = other

variable {m m' : Markers}

/-! ## Lines that move -/

/-- If ranges move, the lines of a class are where its lines have moved. -/
theorem mem_highlighted_mapRanges {f : LineRange → LineRange} {move : Nat → Nat}
    (start : ∀ r : LineRange, (f r).startLine = move r.startLine) (style : Text) (line : Nat) :
    line ∈ highlighted { m with anchors := m.anchors.mapRanges f } style ↔
      ∃ old ∈ m.highlighted style, move old = line := by
  simp only [mem_highlighted_iff, stylesAt, Highlights.mem_stylesAt_iff,
    m.anchors.line?_mapRanges _ start, Option.map_eq_some_iff]
  constructor
  · rintro ⟨e, mem, ⟨old, found, moved⟩, has⟩
    exact ⟨old, ⟨e, mem, found, has⟩, moved⟩
  · rintro ⟨old, ⟨e, mem, found, has⟩, moved⟩
    exact ⟨e, mem, ⟨old, found, moved⟩, has⟩

/-- If no line was in two classes, none is after a deletion exactly if the lines that fall together
are alike. -/
theorem oneStyle_deleteLines_iff (one : m.OneStyle) (start count : Nat) :
    (m.operate (.deleteLines start count)).OneStyle ↔ m.MeetAlike start count := by
  have moved (style : Text) (line : Nat) :
      line ∈ (m.operate (.deleteLines start count)).highlighted style ↔
        ∃ old ∈ m.highlighted style, LineRange.lineAfterDelete start count old = line :=
    mem_highlighted_mapRanges (fun r => r.startLine_deleteLines count start) style line
  constructor
  · intro after line second style other lower upper lower' upper' styled styled'
    have meet := LineRange.lineAfterDelete_eq_iff.mpr (.inr ⟨⟨lower, upper⟩, lower', upper'⟩)
    exact after _ style other ((moved style _).mpr ⟨line, styled, rfl⟩)
      ((moved other _).mpr ⟨second, styled', meet.symm⟩)
  · intro alike line style other styled styled'
    obtain ⟨old, old_styled, rfl⟩ := (moved style line).mp styled
    obtain ⟨second, second_styled, same⟩ := (moved other _).mp styled'
    rcases LineRange.lineAfterDelete_eq_iff.mp same with rfl | ⟨⟨lower, upper⟩, lower', upper'⟩
    · exact one second style other old_styled second_styled
    · exact alike old second style other lower' upper' lower upper old_styled second_styled

namespace OneStyle

/-- Lines that are inserted leave each line with its class. -/
theorem insertLines (one : m.OneStyle) (before count : Nat) :
    (m.operate (.insertLines before count)).OneStyle := by
  have moved (style : Text) (line : Nat) :
      line ∈ (m.operate (.insertLines before count)).highlighted style ↔
        ∃ old ∈ m.highlighted style, (if before ≤ old then old + count else old) = line :=
    mem_highlighted_mapRanges (fun r => r.startLine_insertLines count before) style line
  intro line style other styled styled'
  obtain ⟨old, old_styled, moved_old⟩ := (moved style line).mp styled
  obtain ⟨second, second_styled, moved_second⟩ := (moved other line).mp styled'
  have same : old = second := by
    split_ifs at moved_old moved_second <;> omega
  exact one second style other (same ▸ old_styled) second_styled

/-! ## Other operations -/

/-- If each line is in no more classes than before, none is in two. -/
theorem of_subset (one : m.OneStyle)
    (fewer : ∀ style line, line ∈ m'.highlighted style → line ∈ m.highlighted style) :
    m'.OneStyle :=
  fun line style other styled styled' =>
    one line style other (fewer style line styled) (fewer other line styled')

/-- **Setting a class** puts no line into a second one. -/
theorem highlight (one : m.OneStyle) (covered : m.Covered) (set : Text) (lines : List Nat) :
    (m.highlight set lines).OneStyle := by
  have after (line : Nat) :=
    Highlights.stylesAt_set (covered.congr m.held_perm_highlights) set lines line
  intro line style other styled styled'
  rw [mem_highlighted_iff] at styled styled'
  have styled : style ∈ (m.highlights.set m.anchors set lines).1.stylesAt
    (m.highlights.set m.anchors set lines).2 line := styled
  have styled' : other ∈ (m.highlights.set m.anchors set lines).1.stylesAt
    (m.highlights.set m.anchors set lines).2 line := styled'
  rw [after line] at styled styled'
  split_ifs at styled styled'
  · exact (List.not_mem_nil styled).elim
  · rw [List.mem_singleton.mp styled, List.mem_singleton.mp styled']
  · exact one line style other (mem_highlighted_iff.mpr (List.mem_of_mem_filter styled))
      (mem_highlighted_iff.mpr (List.mem_of_mem_filter styled'))
  · exact one line style other (mem_highlighted_iff.mpr styled) (mem_highlighted_iff.mpr styled')

/-- A discarded anchor takes its highlight off its line. -/
theorem discard (one : m.OneStyle) (id : AnchorId) : (m.operate (.discard id)).OneStyle := by
  refine one.of_subset fun style line => ?_
  simp only [mem_highlighted_iff, stylesAt, Highlights.mem_stylesAt_iff]
  rintro ⟨e, mem, found, has⟩
  have other : e.anchor ≠ id := by
    rintro rfl
    have gone : (m.anchors.remove e.anchor).line? e.anchor = some line := found
    rw [line?, resolve?_eq_none _ (by simp [ids_remove])] at gone
    cases gone
  exact ⟨e, mem, (line?_congr (resolve?_remove_of_ne _ other)).symm.trans found, has⟩

/-- **Every operation** but a deletion puts no line into a second class. -/
theorem operate (one : m.OneStyle) (covered : m.Covered) {o : Operation}
    (kept : ∀ start count, o ≠ .deleteLines start count) : (m.operate o).OneStyle := by
  by_cases about : o.touches .highlights
  · cases o with
    | highlight style lines => exact one.highlight covered style lines
    | clearHighlights =>
      exact one.of_subset fun style line mem =>
        absurd (mem_highlighted_iff.mp mem) List.not_mem_nil
    | insertLines before count => exact one.insertLines before count
    | deleteLines start count => exact absurd rfl (kept start count)
    | discard id => exact one.discard id
    | _ => cases about
  · exact one.of_subset fun style line mem => covered.sameHighlights about style ▸ mem

end OneStyle

/-- **When a line is in two classes.** Along any operations, no line is ever in two classes exactly
if for every deletion the lines that fall together in it are, at that moment, in one class, as far
as they are in any. -/
theorem oneStyle_throughout_iff (operations : List Operation) :
    (∀ before, before <+: operations → (before.foldl operate .empty).OneStyle) ↔
      ∀ before start count, before ++ [.deleteLines start count] <+: operations →
        (before.foldl operate .empty).MeetAlike start count := by
  constructor
  · intro always before start count reached
    have one := always before ((List.prefix_append before _).trans reached)
    have after := always _ reached
    rw [List.foldl_append] at after
    exact (oneStyle_deleteLines_iff one start count).mp after
  · intro alike before reached
    induction before using List.reverseRecOn with
    | nil =>
      exact fun line style other styled =>
        absurd (mem_highlighted_iff.mp styled) List.not_mem_nil
    | append_singleton before o ih =>
      have one := ih ((List.prefix_append before _).trans reached)
      rw [List.foldl_append]
      by_cases deletion : ∃ start count, o = .deleteLines start count
      · obtain ⟨start, count, rfl⟩ := deletion
        exact (oneStyle_deleteLines_iff one start count).mpr (alike before start count reached)
      · exact one.operate (Covered.empty.run before) fun start count same =>
          deletion ⟨start, count, same⟩

/-- Two lines are put into two classes, and the first of them is deleted. -/
def mixed : List Operation :=
  [.highlight "complete".toList [2], .highlight "error".toList [3], .deleteLines 2 1]

/-- **A line may be in two classes.** The second line falls on the place of the first one, and is in
both classes then. -/
theorem two_styles_on_line :
    (mixed.foldl operate .empty).highlighted "complete".toList = [2] ∧
      (mixed.foldl operate .empty).highlighted "error".toList = [2] ∧
      "complete".toList ≠ "error".toList := by
  decide +kernel

end Markers

end StepScript
