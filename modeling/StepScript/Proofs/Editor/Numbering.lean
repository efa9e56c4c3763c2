import Mathlib
import StepScript.Proofs.Catalog.Check
import StepScript.Proofs.Document.Reading
import StepScript.Proofs.Editor.Runs
import StepScript.Proofs.Grammar.Coverage
import StepScript.Proofs.Marker.Following

/-!
# Whether tokens, problems and lines are numbered alike

**Two ways to count.** Markers are attached to the lines of the document, while tokens and problems
come from its text, whose lines are counted anew. Both counts belong to the same document as long as
its lines hold no line feed, and edits that insert such lines keep that so
(`Editor.linewise_after`).

**When they agree.** The text is read as the lines of the document exactly if the last line is shown
and returns are kept (`Document.Linewise.lines_text_eq_iff`), and the tokens are those of the text
that is read. Problems never lie outside the document, since the text has no more lines than it
(`Editor.after_numbered`). Edits lead to documents of the other kind: one that puts an empty line
behind the last one, which is not ended, and one that puts a line behind a last line that ends with
a carriage return (`Editor.numbered_apart`).
-/

namespace StepScript

namespace Editor

variable {e left : Editor}

/-- An edit that inserts lines, and not texts of several lines: no carriage return and no line feed
is among them. Other calls are not concerned. -/
def Call.InsertsLines : Call → Prop
  | .act (.edit change) => ∀ line ∈ change.inserted, '\r' ∉ line ∧ '\n' ∉ line
  | _ => True

/-- Whether a call inserts whole lines only can be computed. -/
instance : DecidablePred Call.InsertsLines
  | .act (.edit change) =>
    inferInstanceAs (Decidable (∀ line ∈ change.inserted, '\r' ∉ line ∧ '\n' ∉ line))
  | .act (.setContent _) | .act (.setKeywords _) | .act (.setElements _ _)
  | .act (.setVariables _ _) | .act (.setStepList _ _) | .act (.setSyntaxMessage _)
  | .act (.setErrorLinks _) | .act (.decorate _) | .act (.toggle _) | .act (.hover _)
  | .act .flush | .act (.highlight _ _) | .act (.showError _ _ _) | .act (.showCode _ _ _)
  | .act .clearErrors | .act .clear | .act (.setCursor _) | .act (.execute _)
  | .highlight _ _ | .drain => isTrue trivial

/-! ## What becomes of the document -/

/-- Replacing the whole document leaves the one that the new text is. -/
theorem document_setContent (e : Editor) (t : Text) :
    (e.setContent t).document = Document.ofText t := by
  rw [setContent, document_edit]
  exact e.document.apply_replaceAll t

/-- Its lines are the lines of the new text. -/
theorem lines_setContent (e : Editor) (t : Text) : (e.setContent t).document.lines = t.lines :=
  congrArg Document.lines (e.document_setContent t)

/-- A change of the tables leaves the document. -/
theorem document_of_withContext {context : Except Failure Context}
    (performed : (do return e.withContext (← context)) = .ok left) :
    left.document = e.document := by
  obtain ⟨c, -, changed⟩ := Failure.bind_eq_ok performed
  cases changed
  rfl

/-- A payload for the markers leaves the document. -/
theorem document_of_withMarkers {α : Type} {x : Except Failure α} {change : α → Markers}
    (performed : (do return e.withMarkers (change (← x))) = .ok left) :
    left.document = e.document := by
  obtain ⟨a, -, changed⟩ := Failure.bind_eq_ok performed
  cases changed
  rfl

/-- **An action** replaces the document, edits it, or leaves it. -/
theorem document_perform {action : Action} (performed : e.perform action = .ok left) :
    (∃ t, action = .setContent t ∧ left.document.lines = t.lines) ∨
      (∃ change, action = .edit change ∧
        left.document = e.document.apply (change.within e.lineCount)) ∨
      left.document = e.document := by
  cases action with
  | setContent t =>
    cases performed
    exact .inl ⟨t, rfl, e.lines_setContent t⟩
  | edit change =>
    cases performed
    exact .inr (.inl ⟨change, rfl, e.document_edit change⟩)
  | setKeywords payload => exact .inr (.inr (document_of_withContext performed))
  | setElements payload clear => exact .inr (.inr (document_of_withContext performed))
  | setVariables payload clear => exact .inr (.inr (document_of_withContext performed))
  | setStepList payload clear => exact .inr (.inr (document_of_withContext performed))
  | setErrorLinks payload => exact .inr (.inr (document_of_withMarkers performed))
  | decorate payload => exact .inr (.inr (document_of_withMarkers performed))
  | highlight style payload => exact .inr (.inr (document_of_withMarkers performed))
  | flush =>
    cases performed
    exact .inr (.inr (document_report _ _))
  | execute command =>
    cases performed
    cases command <;> exact .inr (.inr rfl)
  | _ =>
    cases performed
    exact .inr (.inr rfl)

/-- A call that inserts lines keeps the document one of lines. -/
theorem linewise_call (h : e.document.Linewise) {c : Call} (inserts : c.InsertsLines) :
    (e.call c).document.Linewise := by
  cases c with
  | act action =>
    refine leftBy_of_perform (P := fun e => e.document.Linewise) h fun left performed => ?_
    rcases document_perform performed with ⟨t, -, lines⟩ | ⟨change, rfl, document⟩ | same
    · exact Document.linewise_of_lines_eq lines
    · rw [document]
      exact h.apply fun line mem => (inserts line mem).2
    · rwa [same]
  | highlight style lines => exact h
  | drain => exact h

/-- After calls that insert lines, the document is one of lines. -/
theorem linewise_after (h : e.document.Linewise) {calls : List Call}
    (inserts : ∀ c ∈ calls, c.InsertsLines) : (e.after calls).document.Linewise := by
  induction calls generalizing e with
  | nil => exact h
  | cons c calls ih =>
    rw [List.forall_mem_cons] at inserts
    exact ih (linewise_call h inserts.1) inserts.2

/-! ## Numbers of lines -/

/-- The tokens that are kept are, line by line, the text that is read. -/
theorem Current.map_text_tokens (h : e.Current) :
    e.tokens.map LineTokens.text = e.content.lines := by
  rw [h.tokens_eq]
  exact Vocabulary.text_tokenizeLines _ _ _

/-- **When tokens, problems and lines are numbered alike.** After any calls of a new editor whose
edits insert lines, there are as many lists of tokens as lines exactly if the last line is shown, and
they cover the lines one by one exactly if returns are kept, too. Each problem has the number of a
line in any case. Replacing the document by its own text keeps the number of lines exactly if the
last line is shown. -/
theorem after_numbered (context : Context) (calls : List Call)
    (inserts : ∀ c ∈ calls, c.InsertsLines) :
    let e := (ofContext context).after calls
    (e.tokens.length = e.lineCount ↔ e.document.LastShown) ∧
      (e.tokens.map LineTokens.text = e.document.lines ↔
        e.document.LastShown ∧ e.document.ReturnsKept) ∧
      (∀ p ∈ e.problems, 1 ≤ p.line ∧ p.line ≤ e.lineCount) ∧
      ((e.setContent e.content).lineCount = e.lineCount ↔ e.document.LastShown) := by
  intro e
  have linewise : e.document.Linewise :=
    linewise_after (e := ofContext context) (fun _ mem => absurd mem List.not_mem_nil) inserts
  have current : e.Current := after_invariant (fun _ c h => h.call c) current_refresh calls
  have texts : e.tokens.map LineTokens.text = e.document.text.lines := current.map_text_tokens
  have count : e.tokens.length = e.document.text.lines.length := by
    rw [← texts, List.length_map]
  refine ⟨?_, ?_, ?_, ?_⟩
  · rw [count]
    exact linewise.length_lines_text_iff
  · rw [texts]
    exact linewise.lines_text_eq_iff
  · intro p mem
    have problems : e.context.catalog.check e.content e.context.vocabulary = e.problems :=
      congrArg Editor.problems current
    rw [← problems] at mem
    obtain ⟨first, line, here, -⟩ := Catalog.exists_line_of_mem_check mem
    have within := (List.getElem?_eq_some_iff.mp here).1
    have no_more : e.content.lines.length ≤ e.lineCount := by
      rw [lineCount, linewise.lineCount_eq]
      exact Nat.le_add_right _ _
    exact ⟨first, by omega⟩
  · rw [lineCount, Document.lineCount, e.lines_setContent]
    exact linewise.length_lines_text_iff

/-- A document with returns, an empty line at its start and lines that are put behind its last one
and taken away again. -/
def mixedEdits : List Call :=
  [.act (.setContent "\r\nGiven x\n\r\r\nlast".toList), .act (.edit ⟨9, 0, ["b".toList, []]⟩),
    .act (.edit ⟨6, 1, []⟩), .act (.toggle 2), .act (.edit ⟨4, 1, ["c".toList]⟩)]

/-- After these edits the tokens cover the five lines one by one. -/
theorem after_numbered_mixedEdits :
    (∀ c ∈ mixedEdits, c.InsertsLines) ∧
      ((ofContext default).after mixedEdits).tokens.length = 5 ∧
      ((ofContext default).after mixedEdits).tokens.map LineTokens.text =
        [[], "Given x".toList, ['\r'], "c".toList, "b".toList] := by
  have inserts : ∀ c ∈ mixedEdits, c.InsertsLines := by decide
  have lines : ((ofContext default).after mixedEdits).document.lines =
      [[], "Given x".toList, ['\r'], "c".toList, "b".toList] := by decide +kernel
  have shown : ((ofContext default).after mixedEdits).document.LastShown := by decide +kernel
  have kept : ((ofContext default).after mixedEdits).document.ReturnsKept := by decide +kernel
  obtain ⟨counts, covers, -, -⟩ := after_numbered default mixedEdits inserts
  refine ⟨inserts, ?_, ?_⟩
  · rw [counts.mpr shown, lineCount, Document.lineCount, lines]
    rfl
  · rw [covers.mpr ⟨shown, kept⟩, lines]

/-- An empty line that is inserted behind the only line. -/
def emptyLineBehind : List Call :=
  [.act (.setContent "a".toList), .act (.edit ⟨2, 0, [[]]⟩)]

/-- A line that is inserted behind a last line with a carriage return at its end. -/
def lineBehindReturn : List Call :=
  [.act (.setContent "a\r".toList), .act (.edit ⟨2, 0, ["b".toList]⟩)]

/-- **They are not always numbered alike.** The empty line has no tokens, and is lost when the
document is replaced by its own text. The carriage return is not covered by tokens any more. -/
theorem numbered_apart :
    ((ofContext default).after emptyLineBehind).lineCount = 2 ∧
      ((ofContext default).after emptyLineBehind).tokens.length = 1 ∧
      (((ofContext default).after emptyLineBehind).setContent
        ((ofContext default).after emptyLineBehind).content).lineCount = 1 ∧
      ((ofContext default).after lineBehindReturn).document.lines = ["a\r".toList, "b".toList] ∧
      ((ofContext default).after lineBehindReturn).tokens.map LineTokens.text =
        ["a".toList, "b".toList] := by
  decide +kernel

end Editor

end StepScript
