import Mathlib
import StepScript.Proofs.Catalog.Suggestions
import StepScript.Proofs.Editor.Numbering
import StepScript.Proofs.Editor.Values

/-!
# The text that an editor gives back

**One ending for all lines.** An editor keeps lines and not the text that it is given. Of the line
endings it keeps which kind occurred and whether the last line had one, and it gives all lines that
ending. A text whose lines all end with a single line feed comes back as it was; if a carriage return
and a line feed occur in it, each line feed comes back with a carriage return in front
(`Text.withReturns`). Both texts have the lines of the text that was given.

**How a text is cut.** All of this is read off one form of a text (`Text.CutInto`): lines that are
ended by a line feed, and what stands behind the last line feed. A carriage return that belongs to a
line ending is the last character of an ended line, so the texts in question come from each other by
changing ended lines one by one. What stands behind the last line feed stays as it is; a carriage
return at its end is a character like any other.
-/

namespace StepScript

namespace Text

variable {t line rest : Text} {ended : List Text} {c : Char}

/-- The text with a carriage return in front of each line feed that has none. -/
def withReturns : Text → Text
  | [] => []
  | '\r' :: '\n' :: rest => '\r' :: '\n' :: withReturns rest
  | '\n' :: rest => '\r' :: '\n' :: withReturns rest
  | c :: rest => c :: withReturns rest

/-! ## Carriage returns, line by line -/

/-- A character stays as it is if it is no line feed, nor a carriage return in front of one. -/
theorem withReturns_cons (other : c ≠ '\n') (apart : c = '\r' → t.head? ≠ some '\n') :
    withReturns (c :: t) = c :: withReturns t := by
  rw [withReturns]
  · rintro rest rfl rfl
    exact apart rfl rfl
  · exact other

/-- A text without line feeds stays as it is. -/
theorem withReturns_eq_self (plain : '\n' ∉ t) : withReturns t = t := by
  induction t with
  | nil => rfl
  | cons c t ih =>
    rw [List.mem_cons, not_or] at plain
    have apart : c = '\r' → t.head? ≠ some '\n' :=
      fun _ feed => plain.2 (List.mem_of_mem_head? feed)
    rw [withReturns_cons (Ne.symm plain.1) apart, ih plain.2]

/-- An ended line gets a carriage return unless it has one. -/
theorem withReturns_ended (plain : '\n' ∉ line) (rest : Text) :
    withReturns (line ++ '\n' :: rest) = dropReturn line ++ '\r' :: '\n' :: withReturns rest := by
  induction line with
  | nil => simp [withReturns, dropReturn]
  | cons c line ih =>
    rw [List.mem_cons, not_or] at plain
    have other : c ≠ '\n' := Ne.symm plain.1
    cases line with
    | nil =>
      by_cases isReturn : c = '\r'
      · simp [isReturn, withReturns, dropReturn]
      · have apart : c = '\r' → ('\n' :: rest).head? ≠ some '\n' := fun same => absurd same isReturn
        rw [List.singleton_append, withReturns_cons other apart]
        simp [isReturn, withReturns, dropReturn]
    | cons d more =>
      have apart : c = '\r' → (d :: more ++ '\n' :: rest).head? ≠ some '\n' := by
        rintro - feed
        exact plain.2 (by simpa using Or.inl (Option.some.inj feed).symm)
      rw [List.cons_append, withReturns_cons other apart, ih plain.2,
        dropReturn_cons (List.cons_ne_nil d more)]
      rfl

/-! ## Returns in a text that is cut into lines -/

namespace CutInto

/-- It ends with a line feed if there is no rest behind the ended lines. -/
theorem getLast?_eq_iff (cut : t.CutInto ended rest) :
    t.getLast? = some '\n' ↔ rest = [] ∧ ended ≠ [] := by
  rw [cut.text_eq]
  by_cases empty : rest = []
  · rw [empty, List.append_nil]
    rcases List.eq_nil_or_concat ended with rfl | ⟨before, line, rfl⟩
    · simp
    · simp [← List.append_assoc]
  · rw [List.getLast?_append_of_ne_nil _ empty]
    simp only [empty, false_and, iff_false]
    exact fun feed => cut.last (List.mem_of_getLast? feed)

/-- If no carriage return stands in front of a line feed, none is at the end of an ended line. -/
theorem map_dropReturn_eq (cut : t.CutInto ended rest) (none_there : ¬ ['\r', '\n'] <:+: t) :
    ended.map dropReturn = ended := by
  have kept : ∀ line ∈ ended, dropReturn line = id line := by
    intro line mem
    apply dropReturn_eq_self_iff.mpr
    intro isReturn
    obtain ⟨start, line_eq⟩ := List.getLast?_eq_some_iff.mp isReturn
    obtain ⟨before, behind, ended_eq⟩ := List.append_of_mem mem
    apply none_there
    refine ⟨before.flatMap (· ++ ['\n']) ++ start, behind.flatMap (· ++ ['\n']) ++ rest, ?_⟩
    rw [cut.text_eq, ended_eq, line_eq]
    simp
  rw [List.map_congr_left kept, List.map_id]

/-- With returns it has the same lines and the same rest, the lines ended by both characters. -/
theorem withReturns_eq (cut : t.CutInto ended rest) :
    t.withReturns = (ended.map dropReturn).flatMap (· ++ ['\r', '\n']) ++ rest := by
  obtain ⟨rfl, plain, last⟩ := cut
  induction ended with
  | nil => exact withReturns_eq_self last
  | cons line ended ih =>
    rw [List.forall_mem_cons] at plain
    rw [flatMap_ended_cons, withReturns_ended plain.1, ih plain.2]
    simp

/-- Its lines with returns are ended lines, too. -/
theorem withReturns (cut : t.CutInto ended rest) :
    t.withReturns.CutInto (ended.map fun line => dropReturn line ++ ['\r']) rest where
  text_eq := by
    rw [cut.withReturns_eq]
    simp [List.flatMap_map]
  plain := by
    intro marked mem
    obtain ⟨line, in_ended, rfl⟩ := List.mem_map.mp mem
    have chars := cut.plain line in_ended
    unfold dropReturn
    split
    · simpa using fun feed => chars (List.mem_of_mem_dropLast feed)
    · simpa using chars
  last := cut.last

end CutInto

/-- **With returns a text has the same lines.** -/
theorem lines_withReturns (t : Text) : t.withReturns.lines = t.lines := by
  obtain ⟨ended, rest, cut⟩ := t.exists_cutInto
  rw [cut.lines_eq, cut.withReturns.lines_eq, List.map_map]
  congr 2
  exact funext fun line => dropReturn_concat (dropReturn line)

example : withReturns "a\nb\r\n\n\r".toList = "a\r\nb\r\n\r\n\r".toList := by decide

end Text

/-! ## Documents -/

namespace Document

/-- Its ended lines are those of the text without carriage returns, and the rest is the same. -/
theorem ended_ofText {t rest : Text} {ended : List Text} (cut : t.CutInto ended rest) :
    (ofText t).ended = ended.map Text.dropReturn ∧ (ofText t).unended = rest := by
  unfold Document.ended Document.unended ofText
  simp only [cut.lines_eq, cut.getLast?_eq_iff]
  by_cases empty : rest = []
  · by_cases none_ended : ended = [] <;> simp [empty, none_ended]
  · simp [empty]

/-- **The text of the document that a text is**, which has one ending for all lines. -/
theorem text_ofText (t : Text) :
    (ofText t).text = if ['\r', '\n'] <:+: t then t.withReturns else t := by
  obtain ⟨ended, rest, cut⟩ := t.exists_cutInto
  obtain ⟨ended_eq, unended_eq⟩ := ended_ofText cut
  rw [text_eq, ended_eq, unended_eq]
  by_cases returns : ['\r', '\n'] <:+: t
  · have ending : (ofText t).ending = .returnLineFeed := if_pos (Text.occursIn_iff.mpr returns)
    rw [if_pos returns, cut.withReturns_eq, ending]
    rfl
  · have ending : (ofText t).ending = .lineFeed :=
      if_neg fun found => returns (Text.occursIn_iff.mp found)
    rw [if_neg returns, cut.map_dropReturn_eq returns, ending, cut.text_eq]
    rfl

/-- It has the lines of the text. -/
theorem lines_text_ofText (t : Text) : (ofText t).text.lines = t.lines := by
  rw [text_ofText]
  split
  · exact t.lines_withReturns
  · rfl

end Document

/-! ## Editors -/

/-- The tokens of a text depend on its lines only, and so do the problems. -/
theorem Context.derived_of_lines_eq {s t : Text} (c : Context) (same : s.lines = t.lines) :
    c.tokenize s = c.tokenize t ∧ c.check s = c.check t := by
  constructor
  · exact congrArg (c.grammar.vocabulary.tokenizeLines .initial) same
  · rw [Context.check, Catalog.check, same]
    rfl

namespace Editor

/-- **The content that is set comes back.** It is the text itself if no carriage return stands in
front of a line feed there, and else the text with a carriage return in front of each line feed. The
editor has the lines of the text, and so has its content; its tokens and problems are those of the
text. -/
theorem content_round_trips (e : Editor) (t : Text) :
    let left := e.setContent t
    left.content = (if ['\r', '\n'] <:+: t then t.withReturns else t) ∧
      left.document.lines = t.lines ∧ left.content.lines = t.lines ∧
      left.tokens = e.context.tokenize t ∧ left.problems = e.context.check t := by
  intro left
  have document : left.document = Document.ofText t := e.document_setContent t
  have content_lines : left.content.lines = t.lines := by
    rw [content, document]
    exact Document.lines_text_ofText t
  have context : left.context = e.context := context_edit _ _
  have current : left.Current := current_edit _ _
  obtain ⟨tokens, problems⟩ := e.context.derived_of_lines_eq content_lines
  refine ⟨?_, ?_, content_lines, ?_, ?_⟩
  · rw [content, document]
    exact Document.text_ofText t
  · rw [document]
    rfl
  · rw [← tokens, ← context]
    exact current.tokens_eq
  · rw [← problems, ← context]
    exact current.problems_eq

end Editor

end StepScript
