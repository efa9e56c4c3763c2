import Mathlib
import StepScript.Document
import StepScript.Proofs.Text.Lines

/-!
# Reading the text of a document gives its lines, or nearly so

**What the text is.** The text of a document is its lines, each of them ended but perhaps the last
(`Document.ended`, `Document.unended`), so its pieces are known (`Document.Linewise.lines_text`).
Whether they are the lines again depends on two things only.

* A last line that is empty and not ended leaves no trace in the text, and the reader does not see
  it. In a document whose `LastShown` holds there is no such line, and exactly then the text has as
  many lines as the document (`Document.Linewise.length_lines_text_iff`). Otherwise it has one less.
* A carriage return at the end of a line, in front of a line ending that is a single line feed, is
  read as part of the line ending. In a document whose `ReturnsKept` holds there is no such line.

If both hold, and only then, the text is read as the lines of the document
(`Document.Linewise.lines_text_eq_iff`).
-/

namespace StepScript

/-- What stands before the line feed in a line ending. -/
def LineEnding.mark : LineEnding → Text
  | lineFeed => []
  | returnLineFeed => ['\r']

/-- Every ending is a line feed, with a mark of its own before it. -/
theorem LineEnding.text_eq (ending : LineEnding) : ending.text = ending.mark ++ ['\n'] := by
  cases ending <;> rfl

namespace Document

variable (d : Document)

/-- No line holds a line feed. -/
def Linewise : Prop := ∀ line ∈ d.lines, '\n' ∉ line

/-- The lines behind which the text has a line ending. -/
def ended : List Text := if d.lastEnded then d.lines else d.lines.dropLast

/-- What the text has behind the last line ending. -/
def unended : Text := if d.lastEnded then [] else d.lines.getLast?.getD []

/-- The last line, if there is one, is ended or not empty. -/
def LastShown : Prop := d.lastEnded = true ∨ d.lines.getLast? ≠ some []

/-- No line ends with a carriage return that the text has in front of a single line feed. -/
def ReturnsKept : Prop :=
  d.ending = .returnLineFeed ∨ ∀ line ∈ d.ended, line.getLast? ≠ some '\r'

/-- Whether the last line is shown can be computed. -/
instance : Decidable d.LastShown := inferInstanceAs (Decidable (_ ∨ _))

/-- Whether carriage returns are kept can be computed. -/
instance : Decidable d.ReturnsKept := inferInstanceAs (Decidable (_ ∨ _))

/-! ## The text -/

/-- Joined lines are lines that are all ended but the last. -/
theorem intercalate_eq (ending : Text) (lines : List Text) :
    ending.intercalate lines =
      lines.dropLast.flatMap (· ++ ending) ++ lines.getLast?.getD [] := by
  match lines with
  | [] => rfl
  | [line] => simp
  | line :: next :: more =>
    rw [List.intercalate_cons_cons, intercalate_eq ending (next :: more)]
    simp

/-- A list is its members but the last, and the last. -/
theorem flatMap_eq (ending : Text) (lines : List Text) (nonempty : lines ≠ []) :
    lines.flatMap (· ++ ending) =
      lines.dropLast.flatMap (· ++ ending) ++ lines.getLast?.getD [] ++ ending := by
  have parts := List.dropLast_append_getLast nonempty
  rw [List.getLast?_eq_some_getLast nonempty]
  nth_rewrite 1 [← parts]
  simp

/-- The text of a document: its ended lines, and what stands behind them. -/
theorem text_eq : d.text = d.ended.flatMap (· ++ d.ending.text) ++ d.unended := by
  unfold text ended unended
  rw [intercalate_eq]
  by_cases ends : d.lastEnded = true
  · by_cases none_there : d.lines = []
    · simp [none_there]
    · rw [if_pos ⟨ends, none_there⟩, if_pos ends, if_pos ends, flatMap_eq _ _ none_there,
        List.append_nil]
  · simp [ends]

/-- Ended lines and what stands behind them are lines of the document. -/
theorem mem_lines_of_mem_ended {line : Text} (mem : line ∈ d.ended) : line ∈ d.lines := by
  unfold ended at mem
  by_cases ends : d.lastEnded = true
  · rwa [if_pos ends] at mem
  · rw [if_neg ends] at mem
    exact List.mem_of_mem_dropLast mem

variable {d}

/-- What stands behind the last line ending holds no line feed either. -/
theorem Linewise.lineFeed_not_mem_unended (linewise : d.Linewise) : '\n' ∉ d.unended := by
  unfold unended
  by_cases ends : d.lastEnded = true
  · simp [ends]
  · rw [if_neg ends]
    cases last : d.lines.getLast? with
    | none => simp
    | some line => exact linewise line (List.mem_of_getLast? last)

/-- A line with the mark of its line ending holds no line feed. -/
theorem Linewise.lineFeed_not_mem_marked (linewise : d.Linewise) :
    ∀ line ∈ d.ended.map (· ++ d.ending.mark), '\n' ∉ line := by
  intro marked mem
  obtain ⟨line, in_ended, rfl⟩ := List.mem_map.mp mem
  have plain := linewise line (d.mem_lines_of_mem_ended in_ended)
  cases d.ending <;> simpa [LineEnding.mark] using plain

/-- The text is cut at the line endings of the document. -/
theorem Linewise.cutInto (linewise : d.Linewise) :
    d.text.CutInto (d.ended.map (· ++ d.ending.mark)) d.unended where
  text_eq := by
    rw [text_eq, List.flatMap_map]
    simp only [LineEnding.text_eq, List.append_assoc]
  plain := linewise.lineFeed_not_mem_marked
  last := linewise.lineFeed_not_mem_unended

/-- **What is read from the text of a document.** -/
theorem Linewise.lines_text (linewise : d.Linewise) :
    d.text.lines = d.ended.map (fun line => Text.dropReturn (line ++ d.ending.mark)) ++
      if d.unended = [] then [] else [d.unended] := by
  rw [linewise.cutInto.lines_eq, List.map_map]
  rfl

/-! ## Comparing it with the lines -/

/-- If the last line is shown, the ended lines and what stands behind them are all the lines. -/
theorem LastShown.lines_eq (shown : d.LastShown) :
    d.lines = d.ended ++ if d.unended = [] then [] else [d.unended] := by
  unfold ended unended
  by_cases ends : d.lastEnded = true
  · simp [ends]
  · have not_empty : d.lines.getLast? ≠ some [] := shown.resolve_left ends
    rw [if_neg ends, if_neg ends]
    cases last : d.lines.getLast? with
    | none => simp [List.getLast?_eq_none_iff.mp last]
    | some line =>
      rw [last] at not_empty
      have some_char : line ≠ [] := fun empty => not_empty (by rw [empty])
      simp [some_char, List.dropLast_append_getLast? line last]

/-- If it is not shown, all lines but the last are ended, and nothing stands behind them. -/
theorem lineCount_of_not_lastShown (hidden : ¬ d.LastShown) :
    d.unended = [] ∧ d.lineCount = d.ended.length + 1 := by
  unfold LastShown at hidden
  push Not at hidden
  obtain ⟨not_ended, last⟩ := hidden
  have some_line : 0 < d.lines.length := List.length_pos_of_mem (List.mem_of_getLast? last)
  rw [unended, ended, if_neg not_ended, if_neg not_ended, last, lineCount, List.length_dropLast]
  exact ⟨rfl, by omega⟩

/-- The text has as many lines as the document if its last line is shown, and else one less. -/
theorem Linewise.lineCount_eq (linewise : d.Linewise) :
    d.lineCount = d.text.lines.length + if d.LastShown then 0 else 1 := by
  rw [linewise.lines_text]
  by_cases shown : d.LastShown
  · rw [if_pos shown, lineCount, shown.lines_eq]
    simp
  · obtain ⟨nothing, count⟩ := lineCount_of_not_lastShown shown
    rw [if_neg shown, count, nothing]
    simp

/-- **The text has as many lines as the document exactly if the last line is shown.** -/
theorem Linewise.length_lines_text_iff (linewise : d.Linewise) :
    d.text.lines.length = d.lineCount ↔ d.LastShown := by
  rw [linewise.lineCount_eq]
  by_cases shown : d.LastShown <;> simp [shown]

/-- Taking off a carriage return changes no ended line exactly if returns are kept. -/
theorem map_dropReturn_ended_eq_iff :
    d.ended.map (fun line => Text.dropReturn (line ++ d.ending.mark)) = d.ended ↔
      d.ReturnsKept := by
  unfold ReturnsKept
  cases d.ending with
  | lineFeed =>
    simp only [LineEnding.mark, List.append_nil, reduceCtorEq, false_or]
    rw [← forall₂_congr fun line _ => @Text.dropReturn_eq_self_iff line]
    nth_rewrite 2 [← List.map_id d.ended]
    exact List.map_inj_left
  | returnLineFeed => simp [LineEnding.mark, Text.dropReturn_concat]

/-- **The text is read as the lines of the document exactly if the last line is shown and returns
are kept.** -/
theorem Linewise.lines_text_eq_iff (linewise : d.Linewise) :
    d.text.lines = d.lines ↔ d.LastShown ∧ d.ReturnsKept := by
  constructor
  · intro same
    have shown : d.LastShown := linewise.length_lines_text_iff.mp (congrArg List.length same)
    rw [linewise.lines_text, shown.lines_eq, List.append_cancel_right_eq] at same
    exact ⟨shown, map_dropReturn_ended_eq_iff.mp same⟩
  · rintro ⟨shown, kept⟩
    rw [linewise.lines_text, map_dropReturn_ended_eq_iff.mpr kept, ← shown.lines_eq]

/-! ## Documents that come about by edits -/

/-- The lines of a text hold no line feed, so a document that is replaced by it is linewise. -/
theorem linewise_of_lines_eq {t : Text} (same : d.lines = t.lines) : d.Linewise := by
  intro line mem
  rw [same] at mem
  exact Text.lineFeed_not_mem_of_mem_lines mem

/-- Lines without line feeds may be inserted. -/
theorem Linewise.apply (linewise : d.Linewise) {change : Edit}
    (plain : ∀ line ∈ change.inserted, '\n' ∉ line) : (d.apply change).Linewise := by
  intro line mem
  rw [Document.apply, List.mem_append, List.mem_append] at mem
  rcases mem with (before | inserted) | behind
  · exact linewise line (List.mem_of_mem_take before)
  · exact plain line inserted
  · exact linewise line (List.mem_of_mem_drop behind)

/-- The replacement of all lines is inside the document. -/
theorem within_replaceAll (d : Document) (t : Text) :
    (d.replaceAll t).within d.lineCount = ⟨1, d.lineCount, t.lines⟩ := by
  simp [replaceAll, Edit.within]

/-- The document that a text is. -/
def ofText (t : Text) : Document := ⟨t.lines, .ofText t, t.getLast? = some '\n'⟩

/-- Replacing all lines by those of a text leaves the document that the text is. -/
theorem apply_replaceAll (d : Document) (t : Text) :
    (d.withEndingsOf t).apply ((d.replaceAll t).within d.lineCount) = ofText t := by
  rw [within_replaceAll]
  simp [apply, withEndingsOf, lineCount, ofText]

end Document

end StepScript
