import Mathlib
import StepScript.Proofs.LanguageServer.Completion
import StepScript.Proofs.Text.Offsets
import StepScript.Proofs.Vocabulary.InBytes

/-!
# Completion cuts lines only between characters

**Three ways of counting.** A position from the protocol counts sixteen-bit units, the keyword at the
start of a line and the blanks behind it are counted in characters, and a slice of a line is cut at
byte offsets. Here completion is said in byte offsets throughout, with slices that are only cut where
they can be (`LanguageServer.completeInBytes?`), and it always gives the items of
`LanguageServer.complete` (`LanguageServer.completeInBytes?_eq`).

**Why every slice can be cut.** All offsets are ends of initial parts of the line: of its leading words
and the blanks before them (`Vocabulary.keywordInBytes?_eq`), of the part before the cursor, and of what
completion leaves alone (`LanguageServer.startInBytes?_eq`). Of two initial parts one begins with the
other, so comparing their bytes is comparing their characters (`Text.byteLength_le_iff`). A keyword
that goes beyond the cursor is left out before anything is cut.
-/

namespace StepScript

namespace LanguageServer

variable {v : Vocabulary} {line before : Text}

/-! ## What completion leaves alone -/

/-- The byte offset at which completion starts to replace text before the cursor: behind the keyword,
if that ends before the cursor, and behind the blanks that follow. None if something cannot be cut. -/
def startInBytes? (v : Vocabulary) (line : Text) (cursor : Nat) : Option Nat := do
  let keyword ← v.keywordInBytes? line
  let after := (keyword.filter (· ≤ cursor)).getD 0
  let rest ← line.slice? after cursor
  let skipped ← checkedSub rest.byteLength (Scan.afterBlanks rest).byteLength
  some (after + skipped)

/-- The keyword that completion leaves alone ends where its characters do. -/
theorem keptLength_inBytes (part : before <+: line) :
    (((v.leadingKeyword? line).map fun k => Text.byteLength (line.take k.1)).filter
        (· ≤ before.byteLength)).getD 0 =
      Text.byteLength (line.take (keptLength v line before)) := by
  unfold keptLength Vocabulary.keywordBefore?
  cases found : v.leadingKeyword? line with
  | none => rfl
  | some k =>
    have within : k.1 ≤ line.length := Vocabulary.length_le_of_leadingKeyword? found
    have fits := Text.byteLength_le_iff part (List.take_prefix k.1 line)
    rw [List.length_take, min_eq_left within] at fits
    by_cases before_cursor : k.1 ≤ before.length
    · simp [Option.filter, before_cursor, fits.mpr before_cursor]
    · simp [Option.filter, before_cursor, mt fits.mp before_cursor, Text.byteLength]

/-- What completion leaves alone is the keyword, if there is one before the cursor, and the blanks
behind it. -/
theorem take_replaceStart (v : Vocabulary) (part : before <+: line) :
    line.take (replaceStart v line before) =
      line.take (keptLength v line before) ++
        Scan.blanks (before.drop (keptLength v line before)) := by
  have within := keptLength_le v line before
  obtain ⟨more, rfl⟩ := part
  rw [replaceStart_eq, List.take_add, List.drop_append_of_le_length within]
  congr 1
  exact List.prefix_iff_eq_take.mp ((List.takeWhile_prefix _).trans (List.prefix_append _ _)) |>.symm

/-- **What completion leaves alone ends between two characters**, where `replaceStart` says. -/
theorem startInBytes?_eq (v : Vocabulary) (phrases : List Text) (part : before <+: line) :
    startInBytes? (v.withKeywords phrases) line before.byteLength =
      some (Text.byteLength (line.take (replaceStart (v.withKeywords phrases) line before))) := by
  rw [startInBytes?, Vocabulary.keywordInBytes?_eq, Option.bind_eq_bind, Option.bind_some]
  dsimp only
  rw [keptLength_inBytes part, take_replaceStart _ part, Text.byteLength_append]
  have within := keptLength_le (v.withKeywords phrases) line before
  generalize keptLength (v.withKeywords phrases) line before = kept at within ⊢
  have kept_part : line.take kept <+: before :=
    List.prefix_of_prefix_length_le (List.take_prefix kept line) part
      ((List.length_take_le kept line).trans within)
  have kept_length : (line.take kept).length = kept :=
    List.length_take_of_le (within.trans part.length_le)
  have rest := Text.slice?_eq_some kept_part part
  rw [kept_length] at rest
  have blanks : checkedSub (Text.byteLength (before.drop kept))
      (Scan.afterBlanks (before.drop kept)).byteLength =
        some (Scan.blanks (before.drop kept)).byteLength := by
    have all : Text.byteLength (before.drop kept) = (Scan.blanks (before.drop kept)).byteLength +
        (Scan.afterBlanks (before.drop kept)).byteLength := by
      rw [← Text.byteLength_append, Scan.blanks_append_afterBlanks]
    rw [all, checkedSub_add_right]
  rw [rest, Option.bind_eq_bind, Option.bind_some, blanks]
  rfl

/-- The items for a place in a document, found by byte offsets. None if something cannot be cut. -/
def completeInBytes? (c : Context) (document : Text) (place : Place) :
    Option (List CompletionItem) := do
  let line := (document.lines[place.line]?).getD []
  let cursor := line.byteOffset place.character
  let start ← startInBytes? c.grammar.vocabulary line cursor
  let kept ← line.slice? 0 start
  let before ← line.slice? 0 cursor
  some ((c.suggest before).map fun step => ⟨step, .inLine place.line kept before⟩)

/-- **Completion by byte offsets never fails**, and gives the same items. -/
theorem completeInBytes?_eq {c : Context} {v : Vocabulary} {phrases : List Text}
    (built : c.grammar.vocabulary = v.withKeywords phrases) (document : Text) (place : Place) :
    completeInBytes? c document place = some (complete c document place) := by
  rw [completeInBytes?, complete]
  generalize (document.lines[place.line]?).getD [] = line
  have part := Text.beforeUnit_isPrefix place.character line
  rw [Text.byteOffset_eq, built, startInBytes?_eq v phrases part, Option.bind_eq_bind,
    Option.bind_some, Text.slice?_zero (List.take_prefix _ line), Text.slice?_zero part]
  rfl

/-- What completion leaves alone begins the text before the cursor. -/
theorem kept_isPrefix (v : Vocabulary) (part : before <+: line) :
    line.take (replaceStart v line before) <+: before :=
  List.prefix_of_prefix_length_le (List.take_prefix _ line) part
    ((List.length_take_le _ line).trans (replaceStart_le v line before))

/-- What an item replaces ends with the text before the cursor. -/
theorem replaced_of_mem_complete {c : Context} {document : Text} {place : Place}
    {item : CompletionItem} (mem : item ∈ complete c document place) :
    ∃ kept before : Text, kept <+: before ∧ before <+: (document.lines[place.line]?).getD [] ∧
      item.replaced = .inLine place.line kept before := by
  obtain ⟨step, -, rfl⟩ := List.mem_map.mp mem
  have part := Text.beforeUnit_isPrefix place.character ((document.lines[place.line]?).getD [])
  exact ⟨_, _, kept_isPrefix _ part, part, rfl⟩

/-- **Positions lead to places between characters, and completion cuts there.** The byte offset of a
position is the least boundary of the line before which there are units enough, or the end of the
line if there is none, and the position of a boundary leads back to it. For any keywords, completion
starts to replace text at a boundary that is not behind the cursor. Said in byte offsets, with slices
that fail where they cannot be cut, it gives all the items, and what these replace lies on the line of
the cursor, in order and inside the line. -/
theorem completion_cuts_between_characters (c : Context) (v : Vocabulary) (phrases : List Text)
    (line : Text) (position : Nat) (document : Text) (place : Place) :
    let v := v.withKeywords phrases
    let c := { c with grammar := ⟨v⟩ }
    let cursor := line.byteOffset position
    (∃ before : Text, before <+: line ∧ before.byteLength = cursor ∧
        (position ≤ before.unitLength ∨ before = line ∧ line.unitLength < position)) ∧
      (∀ before : Text, before <+: line → position ≤ before.unitLength →
        cursor ≤ before.byteLength) ∧
      (∀ before : Text, before <+: line →
        line.byteOffset before.unitLength = before.byteLength) ∧
      (∃ start, startInBytes? v line cursor = some start ∧ line.isBoundary start = true ∧
        start ≤ cursor) ∧
      completeInBytes? c document place = some (complete c document place) ∧
      ∀ item ∈ complete c document place,
        item.replaced.start.line = place.line ∧ item.replaced.finish.line = place.line ∧
          item.replaced.start.character ≤ item.replaced.finish.character ∧
          item.replaced.finish.character ≤
            ((document.lines[place.line]?).getD []).unitLength := by
  intro w c cursor
  have part := Text.beforeUnit_isPrefix position line
  have at_cursor : cursor = (line.beforeUnit position).byteLength := line.byteOffset_eq position
  have start := startInBytes?_eq v phrases part
  refine ⟨⟨_, part, at_cursor.symm, line.le_unitLength_beforeUnit position⟩,
    fun before other enough => ?_, fun before other => ?_, ?_, completeInBytes?_eq rfl document place,
    fun item mem => ?_⟩
  · rw [at_cursor]
    exact Text.byteLength_le_of_isPrefix (Text.beforeUnit_isPrefix_of_le other enough)
  · obtain ⟨rest, rfl⟩ := other
    rw [Text.byteOffset_eq, Text.beforeUnit_unitLength]
  · rw [← at_cursor] at start
    refine ⟨_, start, Text.isBoundary_of_isPrefix (List.take_prefix _ line), ?_⟩
    rw [at_cursor]
    exact Text.byteLength_le_of_isPrefix (kept_isPrefix _ part)
  · obtain ⟨kept, before, inner, outer, replaced⟩ := replaced_of_mem_complete mem
    rw [replaced]
    exact ⟨rfl, rfl, Text.unitLength_le_of_isPrefix inner, Text.unitLength_le_of_isPrefix outer⟩

end LanguageServer

end StepScript
