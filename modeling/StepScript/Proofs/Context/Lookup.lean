import Mathlib
import StepScript.Proofs.Context.Coherence
import StepScript.Proofs.Text.Lines
import StepScript.Proofs.Vocabulary.Filling

/-!
# A step is found again from its own label

A completion shows a step by its keyword and its label, and a script names it by a line with both
(`Step.spokenLine`). The line is taken apart into words again, and from these the key is derived
anew. This comes out at the same key (`Vocabulary.Plain.words_spokenLine`): the words of the line
are those that were spoken for the keyword and those of the label, which are the words of the phrase
with its placeholders filled in. So the line leads back to the step, and a check has nothing to say
about it, in every context whose vocabulary is plain.
-/

namespace StepScript

/-- The line that names a step: what is spoken for its keyword, and its label. -/
def Step.spokenLine (s : Step) (spoken : Text) : Text :=
  if s.keyword = [] then s.label else spoken ++ ' ' :: s.label

namespace Catalog

variable {c : Catalog} {v : Vocabulary} {line : Text} {s : Step}

/-- A line with words is looked up by their key. -/
theorem stepForLine?_eq (some_word : Phrase.words line ≠ []) :
    c.stepForLine? line v = c.find? (v.stepKey (Phrase.words line)) := by
  rw [stepForLine?]
  split
  · exact absurd ‹_› some_word
  · rfl

/-- A check has nothing to say about a line that names a step. -/
theorem check_eq_nil (single : line.lines = [line])
    (found : c.find? (v.stepKey (Phrase.words line)) = some s) : c.check line v = [] := by
  have known : c.contains (v.stepKey (Phrase.words line)) = true := by
    rw [contains, Table.contains_eq]
    exact Option.isSome_iff_exists.mpr ⟨s, found⟩
  have not_unknown : c.isUnknown v line = false := by
    rw [isUnknown]
    split
    · rfl
    · rw [known, Bool.not_true, Bool.and_false]
  rw [check, single]
  simp [not_unknown]

end Catalog

/-! ## The words of the line -/

section Line

variable {v : Vocabulary} {phrases : List Text} {s : Step} {spoken : Text}

/-- **The line that names a step has its key**, and has words. -/
theorem Vocabulary.Plain.words_spokenLine (plain : v.Plain)
    (table : Vocabulary.IsKeywordTable phrases v.keywords) (derived : s.relabel v = s)
    (read : s.IsRead)
    (same : (Phrase.words spoken).map Text.lower = Phrase.words s.keyword) :
    Phrase.words (s.spokenLine spoken) ≠ [] ∧
      v.stepKey (Phrase.words (s.spokenLine spoken)) = v.stepKey s.head := by
  obtain ⟨some_word, phrase, phrase_words⟩ := read
  set filled := s.head.map v.substitute
  set n := v.keywordLength filled
  have label : s.label = Text.unwords (filled.drop n) := congrArg Step.label derived.symm
  have keyword : s.keyword = Text.unwords ((filled.take n).map Text.lower) :=
    congrArg Step.keyword derived.symm
  have keyword_words : (Phrase.words spoken).map Text.lower = (filled.take n).map Text.lower := by
    rw [same, keyword, table.words_unwords plain]
  -- Filling in keeps the words of the phrase apart, so the label has the words it was made of.
  have formed : Phrase.WellFormed .between filled :=
    plain.wellFormed_map_substitute (phrase_words ▸ Phrase.wellFormed_words phrase)
  have label_words : Phrase.words s.label = filled.drop n := by
    rw [label, Phrase.words_unwords (formed.sublist (List.drop_sublist n _))]
  have line_words : Phrase.words (s.spokenLine spoken) =
      Phrase.words spoken ++ filled.drop n := by
    rw [Step.spokenLine]
    split
    · rename_i no_keyword
      have none_spoken : Phrase.words spoken = [] := by
        rw [no_keyword] at same
        exact List.map_eq_nil_iff.mp same
      rw [none_spoken, label_words, List.nil_append]
    · have starts : ∀ word ∈ Phrase.words spoken, Phrase.StartsPlain word := by
        intro word mem
        have lowered : word.lower ∈ (filled.take n).map Text.lower :=
          keyword_words ▸ List.mem_map_of_mem mem
        obtain ⟨_, in_table, mem⟩ := Vocabulary.exists_keyword_of_mem_take lowered
        exact Phrase.startsPlain_of_lower (plain.keywords _ in_table _ mem)
      rw [Phrase.words_append_blank starts, label_words]
  rw [line_words]
  refine ⟨fun no_word => some_word ?_, plain.stepKey_spoken keyword_words⟩
  obtain ⟨none_spoken, none_left⟩ := List.append_eq_nil_iff.mp no_word
  rw [none_spoken, List.map_nil] at keyword_words
  have none_taken := List.map_eq_nil_iff.mp keyword_words.symm
  have none_filled := List.take_append_drop n filled
  rw [none_taken, none_left] at none_filled
  exact List.map_eq_nil_iff.mp none_filled.symm

end Line

namespace Context

variable {c : Context} {key spoken : Text} {s : Step}

/-- **A step is found again from its own label.** In a reachable context with a plain vocabulary,
the line with words for the keyword of a step, in any letter case and with any blanks, and the label
of the step leads to that step; and if the line holds no line feed, a check has nothing to say about
it. -/
theorem stepForLine?_spokenLine (reachable : c.Reachable) (plain : c.vocabulary.Plain)
    (found : c.catalog.find? key = some s)
    (same : (Phrase.words spoken).map Text.lower = Phrase.words s.keyword) :
    c.stepForLine? (s.spokenLine spoken) = some s ∧
      ('\n' ∉ s.spokenLine spoken → c.check (s.spokenLine spoken) = []) := by
  obtain ⟨builtin, history, sound⟩ := reachable.exists_sound
  obtain ⟨key_eq, derived⟩ := sound.catalog key s found
  have read := sound.isRead s (Table.mem_values_iff.mpr ⟨key, found⟩)
  obtain ⟨some_word, same_key⟩ := plain.words_spokenLine sound.keywords derived read same
  rw [← key_eq] at same_key
  have looked_up : c.catalog.find? (c.vocabulary.stepKey (Phrase.words (s.spokenLine spoken))) =
      some s := by rw [same_key, found]
  refine ⟨(Catalog.stepForLine?_eq some_word).trans looked_up, fun one_line => ?_⟩
  have nonempty : s.spokenLine spoken ≠ [] := by
    intro empty
    rw [empty] at some_word
    exact some_word rfl
  exact Catalog.check_eq_nil (Text.lines_eq_singleton nonempty one_line) looked_up

/-- Calls that set an element and a step with a placeholder. -/
def openPageCalls : List Call :=
  [.setElements "\x7b\"Page\":\"Home  page\"\x7d".toList true,
    .setStepList "[\x7b\"insertText\":\"And Then I open 'page' \\\"it's\"\x7d]".toList true]

/-- A context with a keyword of two words, after these calls. -/
def openPage : Context :=
  ((ofKeywords ["And then".toList]).apply
    (.elementTable [("Page".toList, "Home  page".toList)] true)).apply
      (.steps [⟨"And Then I open 'page' \"it's".toList, [], [], [], 0, []⟩] true)

/-- A context comes to have this step by one call. -/
theorem reachable_openPage : openPage.Reachable := by
  refine ⟨_, _, [], openPageCalls, .new ["And then".toList], ?_⟩
  have changes : openPageCalls.filterMap Call.change? =
      [.elementTable [("Page".toList, "Home  page".toList)] true,
        .steps [⟨"And Then I open 'page' \"it's".toList, [], [], [], 0, []⟩] true] := by
    decide +kernel
  rw [run_eq_foldl_apply, changes]
  rfl

/-- The step of this context. -/
def openPageStep : Step where
  head := ["And".toList, "Then".toList, "I".toList, "open".toList, "'page'".toList,
    "\"it's".toList]
  body := []
  documentation := []
  filterText := "And Then I open 'page' \"it's".toList
  sortText := []
  group := []
  kind := 0
  order := 1
  key := "i open \"it's".toList
  keyword := "and then".toList
  label := "I open 'Home  page' \"it's".toList
  insertText := "I open 'Home  page' \"it's".toList

/-- With the keyword in another letter case and with other blanks, a value with blanks and a literal
that is not closed, the line leads to the step. -/
theorem stepForLine?_spokenLine_openPage :
    openPage.Reachable ∧ openPage.vocabulary.Plain ∧
      openPage.catalog.find? "i open \"it's".toList = some openPageStep ∧
      openPage.stepForLine? "AND\t thEN  I open 'Home  page' \"it's".toList =
        some openPageStep ∧
      openPage.check "AND\t thEN  I open 'Home  page' \"it's".toList = [] := by
  have plain : openPage.vocabulary.Plain := by decide +kernel
  have found : openPage.catalog.find? "i open \"it's".toList = some openPageStep := by
    decide +kernel
  have same : (Phrase.words "AND\t thEN ".toList).map Text.lower =
      Phrase.words openPageStep.keyword := by decide +kernel
  have line : openPageStep.spokenLine "AND\t thEN ".toList =
      "AND\t thEN  I open 'Home  page' \"it's".toList := by decide +kernel
  have both := stepForLine?_spokenLine reachable_openPage plain found same
  rw [line] at both
  exact ⟨reachable_openPage, plain, found, both.1, both.2 (by decide +kernel)⟩

end Context

end StepScript
