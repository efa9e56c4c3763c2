import StepScript.Json.Decode
import StepScript.Vocabulary

/-!
# Steps: reusable phrases with their labels

**What is given.** One entry of a step list has a text, whose first line is the phrase and whose
further lines (usually a data table) are the body, and some texts for presentation (`StepEntry`).
An entry whose phrase has no words makes no step.

**What is derived.** Key, keyword, label and insert text follow from the words of the phrase, the
body and a vocabulary (`Step.relabel`): the keyword is the leading keyword phrase, the label is the
rest with the placeholders filled in, and the key is what a script line is looked up by. They
belong to the vocabulary under which they were derived, and change only when they are derived anew.
-/

namespace StepScript

/-- One entry of a step list. -/
structure StepEntry where
  /-- The phrase and, on further lines, the body. -/
  insertText : Text
  /-- The text that completion searches; empty for the phrase itself. -/
  filterText : Text
  /-- The text by which steps are sorted. -/
  sortText : Text
  /-- A description in Markdown. -/
  documentation : Text
  /-- The kind of completion item, as a number. -/
  kind : Nat
  /-- The section of the listing to which the step belongs; empty for none. -/
  group : Text
  deriving DecidableEq, Repr

/-- The entry of a step list that a tree writes. Every field may be missing. -/
def StepEntry.decoder : Json.Decoder StepEntry := fun depth tree => do
  let names := ["insertText", "filterText", "sortText", "documentation", "kind", "section"]
  let (inner, fields) ← Json.Decoder.fields? names depth tree
  match fields with
  | [insertText, filterText, sortText, documentation, kind, group] =>
    let text := Json.Decoder.withDefault Json.Decoder.string [] inner
    some {
      insertText := ← text insertText
      filterText := ← text filterText
      sortText := ← text sortText
      documentation := ← text documentation
      kind := ← Json.Decoder.withDefault (Json.Decoder.below (Json.twoTo 32)) 0 inner kind
      group := ← text group }
  | _ => none

/-- A reusable phrase. -/
structure Step where
  /-- The words of the phrase. -/
  head : List Text
  /-- The lines after the phrase. -/
  body : List Text
  documentation : Text
  filterText : Text
  sortText : Text
  group : Text
  kind : Nat
  /-- The number of the entry among all that were loaded, from one. Of two steps with one key the
  later one counts. -/
  order : Nat
  /-- The text by which a script line finds the step. -/
  key : Text
  /-- The leading keyword phrase in lower case; empty for none. -/
  keyword : Text
  /-- The phrase after the keyword, with placeholders filled in. -/
  label : Text
  /-- The label and the body. -/
  insertText : Text
  deriving DecidableEq, Repr

namespace Step

/-- The words of a phrase with their placeholders filled in. -/
def filledWords (head : List Text) (v : Vocabulary) : List Text := head.map v.substitute

/-- The step with everything derived anew under a vocabulary. -/
def relabel (s : Step) (v : Vocabulary) : Step :=
  let words := filledWords s.head v
  let split := v.keywordLength words
  let label := Text.unwords (words.drop split)
  { s with
    key := v.stepKey s.head
    keyword := Text.unwords ((words.take split).map Text.lower)
    label
    insertText := ['\n'].intercalate (label :: s.body) }

/-- The key is that of the phrase. -/
@[simp] theorem key_relabel (s : Step) (v : Vocabulary) :
    (s.relabel v).key = v.stepKey s.head := rfl

/-- Without the carriage returns at the end of a line. -/
def dropReturns (line : Text) : Text := line.dropTrailing (· == '\r')

/-- The step that an entry makes; none when its phrase has no words. -/
def ofEntry? (entry : StepEntry) (order : Nat) (v : Vocabulary) : Option Step :=
  match (Text.pieces (· == '\n') entry.insertText).map dropReturns with
  | [] => none
  | first :: body =>
    let head := Phrase.words first
    if head = [] then none
    else
      let step : Step := {
        head, body, order
        documentation := entry.documentation
        filterText := if entry.filterText = [] then Text.unwords head else entry.filterText
        sortText := entry.sortText
        group := entry.group
        kind := entry.kind
        key := []
        keyword := []
        label := []
        insertText := [] }
      some (step.relabel v)

/-- The step of an entry has its number and is derived under the vocabulary. -/
theorem of_ofEntry?_eq_some {entry : StepEntry} {order : Nat} {v : Vocabulary} {s : Step}
    (h : ofEntry? entry order v = some s) : s.order = order ∧ s.relabel v = s := by
  unfold ofEntry? at h
  split at h
  · cases h
  · dsimp only at h
    split at h
    · cases h
    · cases h
      exact ⟨rfl, rfl⟩

/-- A step whose phrase has the words of some line, and has words at all. -/
def IsRead (s : Step) : Prop := s.head ≠ [] ∧ ∃ line, Phrase.words line = s.head

/-- The phrase of a step is read off the text of its entry. -/
theorem isRead_of_ofEntry?_eq_some {entry : StepEntry} {order : Nat} {v : Vocabulary} {s : Step}
    (h : ofEntry? entry order v = some s) : s.IsRead := by
  unfold ofEntry? at h
  split at h
  · cases h
  · dsimp only at h
    split at h
    · cases h
    · rename_i some_word
      cases h
      exact ⟨some_word, _, rfl⟩

/-- Under another vocabulary an entry makes the same step, derived anew. -/
theorem ofEntry?_eq_map_relabel (entry : StepEntry) (order : Nat) (v w : Vocabulary) :
    ofEntry? entry order w = (Option.map (·.relabel w) <| ofEntry? entry order v) := by
  unfold ofEntry?
  split
  · rfl
  · dsimp only
    split
    · rfl
    · rfl

/-- The order of the listing: by sort text, then label, then key. -/
def precedes (a b : Step) : Bool :=
  ((compare a.sortText b.sortText).then
    ((compare a.label b.label).then (compare a.key b.key))).isLE

/-- Whether completion finds the step for the given words in lower case: each of them occurs in
the filter text or the label. -/
def isFoundBy (s : Step) (needles : List Text) : Bool :=
  let searched := (s.filterText ++ ' ' :: s.label).lower
  needles.all (·.occursIn searched)

end Step

end StepScript
