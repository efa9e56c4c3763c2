import Mathlib
import StepScript.Proofs.Phrase.LeadingWords
import StepScript.Proofs.Vocabulary.Keywords

/-!
# The keyword that the tokenizer finds at the start of a line

**Where it ends.** The tokenizer looks for a keyword among the leading words of a line, and the
keyword ends with the last one of its words (`Vocabulary.leadingKeyword?_eq_some_iff`). There is
such a word, since no keyword is empty.

**When there is one.** The words of a phrase go on to the next blank, so a keyword among these need
not be made of leading words. It is if keywords have letters only: then a line whose words begin
with a keyword has one for the tokenizer, too (`Vocabulary.exists_leadingKeyword?`).
-/

namespace StepScript.Vocabulary

variable {v : Vocabulary} {line : Text} {stop count : Nat}

/-- The leading keyword ends where the last one of its words does. -/
theorem leadingKeyword?_eq_some_iff : v.leadingKeyword? line = some (stop, count) ↔
    v.matchKeyword? ((Scan.leadingWords v.longestPhrase line).map Prod.fst) = some count ∧
      ∃ word, (Scan.leadingWords v.longestPhrase line)[count - 1]? = some (word, stop) := by
  unfold leadingKeyword?
  dsimp only
  split
  · simp_all
  · rename_i n matched
    rw [matched, Option.map_eq_some_iff]
    constructor
    · rintro ⟨⟨word, _⟩, last, same⟩
      cases same
      exact ⟨rfl, word, last⟩
    · rintro ⟨same, word, last⟩
      cases same
      exact ⟨(word, stop), last, rfl⟩

variable (phrases : List Text)

/-- A keyword has at least one word. -/
theorem pos_of_matchKeyword?_eq_some {words : List Text}
    (matched : (v.withKeywords phrases).matchKeyword? words = some count) : 0 < count := by
  obtain ⟨mem, within⟩ := mem_of_matchKeyword?_eq_some matched
  have := v.length_pos_of_mem_withKeywords phrases _ mem
  rw [List.length_map, List.length_take] at this
  omega

/-- The keywords have letters only. -/
def AlphabeticKeywords (v : Vocabulary) : Prop :=
  ∀ phrase ∈ v.keywords, ∀ word ∈ phrase, ∀ c ∈ word, isAlphabetic c = true

/-- Whether the keywords have letters only can be computed. -/
instance (v : Vocabulary) : Decidable v.AlphabeticKeywords :=
  decidable_of_iff (v.keywords.all (·.all (·.all isAlphabetic)) = true)
    (by simp [AlphabeticKeywords])

/-- **A keyword among the words of a line is one for the tokenizer.** Its words have letters only,
so they are leading words, and the tokenizer looks at enough of these. -/
theorem exists_leadingKeyword? (letters : (v.withKeywords phrases).AlphabeticKeywords)
    (matched : (v.withKeywords phrases).matchKeyword? (Phrase.words line) = some count) :
    ∃ stop n, (v.withKeywords phrases).leadingKeyword? line = some (stop, n) := by
  obtain ⟨mem, within⟩ := mem_of_matchKeyword?_eq_some matched
  set front := (Phrase.words line).take count with front_eq
  have front_letters : ∀ word ∈ front, ∀ c ∈ word, isAlphabetic c = true := by
    intro word here
    exact Text.isAlphabetic_of_lower (letters _ mem word.lower (List.mem_map_of_mem here))
  have enough : front.length ≤ (v.withKeywords phrases).longestPhrase := by
    rw [← List.length_map (f := Text.lower)]
    exact v.length_le_longestPhrase phrases _ mem
  have parts : Phrase.words line = front ++ (Phrase.words line).drop count :=
    (List.take_append_drop _ _).symm
  have leading : front <+:
      (Scan.leadingWords (v.withKeywords phrases).longestPhrase line).map Prod.fst :=
    Phrase.leadingWords_of_words enough parts front_letters
  obtain ⟨n, found⟩ := exists_matchKeyword? mem (leading.map Text.lower)
  have positive := pos_of_matchKeyword?_eq_some phrases found
  have available := (mem_of_matchKeyword?_eq_some found).2
  rw [List.length_map] at available
  obtain ⟨⟨word, stop⟩, last⟩ : ∃ w,
      (Scan.leadingWords (v.withKeywords phrases).longestPhrase line)[n - 1]? = some w :=
    ⟨_, List.getElem?_eq_getElem (by omega)⟩
  exact ⟨stop, n, leadingKeyword?_eq_some_iff.mpr ⟨found, word, last⟩⟩

end StepScript.Vocabulary
