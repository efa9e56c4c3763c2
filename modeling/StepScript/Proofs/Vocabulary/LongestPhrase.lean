import Mathlib
import StepScript.Proofs.Phrase.FirstWords
import StepScript.Proofs.Text.Lowering
import StepScript.Proofs.Vocabulary.LeadingKeyword

/-!
# The longest phrase wins

**The longest phrase.** Of the phrases that a host gives, some fit: the words begin with those of the
phrase (`Vocabulary.Fits`), or a line does (`Vocabulary.Speaks`), in any letter case. The keyword is
as long as the longest phrase that fits (`Vocabulary.IsLongest`). Blank phrases do not count, and in
which order the phrases come, or how often, does not matter.

**Why the table finds it.** The table has the words of all phrases, longer ones first, so the first
entry that fits is as long as any that does (`Vocabulary.matchKeyword?_eq_some_iff_longest`). The
tokenizer looks at no more first words of a line than its longest phrase has, which are as many as a
phrase can ask for (`Vocabulary.leadingKeyword?_eq_some_iff_longest`).
-/

namespace StepScript.Vocabulary

open Scan

/-- The words begin with those of the phrase, in any letter case. -/
def Fits (words : List Text) (phrase : Text) : Prop :=
  (Text.words phrase).map Text.lower <+: words.map Text.lower

/-- The line begins with the words of the phrase, in any letter case. -/
def Speaks (line phrase : Text) : Prop :=
  ∃ found, FirstWords 0 line found ∧
    (found.map Prod.fst).map Text.lower = (Text.words phrase).map Text.lower

/-- The longest of the phrases that fit has `n` words. A blank phrase is none. -/
structure IsLongest (phrases : List Text) (fits : Text → Prop) (n : Nat) : Prop where
  positive : 0 < n
  /-- Some phrase that fits has so many words. -/
  reached : ∃ phrase ∈ phrases, fits phrase ∧ (Text.words phrase).length = n
  /-- None that fits has more. -/
  greatest : ∀ phrase ∈ phrases, fits phrase → (Text.words phrase).length ≤ n

variable {phrases : List Text} {fits : Text → Prop} {words : List Text} {line : Text} {m n stop : Nat}

/-- There is one greatest number of words. -/
theorem IsLongest.unique (h : IsLongest phrases fits m) (h' : IsLongest phrases fits n) : m = n := by
  obtain ⟨phrase, mem, fit, rfl⟩ := h.reached
  obtain ⟨other, other_mem, other_fit, rfl⟩ := h'.reached
  exact le_antisymm (h'.greatest phrase mem fit) (h.greatest other other_mem other_fit)

/-- Which phrase is the longest depends on which of the given phrases fit only. -/
theorem isLongest_congr {others : Text → Prop}
    (same : ∀ phrase ∈ phrases, fits phrase ↔ others phrase) :
    IsLongest phrases fits n ↔ IsLongest phrases others n := by
  constructor
  · rintro ⟨positive, ⟨phrase, mem, fit, length⟩, greatest⟩
    exact ⟨positive, ⟨phrase, mem, (same phrase mem).mp fit, length⟩,
      fun other other_mem fit => greatest other other_mem ((same other other_mem).mpr fit)⟩
  · rintro ⟨positive, ⟨phrase, mem, fit, length⟩, greatest⟩
    exact ⟨positive, ⟨phrase, mem, (same phrase mem).mpr fit, length⟩,
      fun other other_mem fit => greatest other other_mem ((same other other_mem).mp fit)⟩

/-! ## Among words -/

variable (v : Vocabulary)

/-- The keywords are the words of the phrases in lower case, except for blank phrases. -/
theorem mem_keywords_withKeywords_iff {keyword : List Text} :
    keyword ∈ (v.withKeywords phrases).keywords ↔
      (∃ phrase ∈ phrases, (Text.words phrase).map Text.lower = keyword) ∧ keyword ≠ [] := by
  change keyword ∈ keywordTable phrases ↔ _
  rw [(isKeywordTable_keywordTable phrases).mem_iff, List.mem_map]
  simp only [foldedWords, Text.words_lower]

/-- A phrase is blank, or its words are a keyword. -/
theorem words_eq_nil_or_mem_keywords {phrase : Text} (mem : phrase ∈ phrases) :
    Text.words phrase = [] ∨
      (Text.words phrase).map Text.lower ∈ (v.withKeywords phrases).keywords := by
  by_cases blank : Text.words phrase = []
  · exact .inl blank
  · have nonempty : (Text.words phrase).map Text.lower ≠ [] := by simpa using blank
    exact .inr ((mem_keywords_withKeywords_iff v).mpr ⟨⟨phrase, mem, rfl⟩, nonempty⟩)

/-- The keyword that is found is at least as long as any other one with which the words begin. -/
theorem length_le_of_matchKeyword?_eq_some {keyword : List Text}
    (matched : (v.withKeywords phrases).matchKeyword? words = some n)
    (mem : keyword ∈ (v.withKeywords phrases).keywords)
    (leading : keyword <+: words.map Text.lower) : keyword.length ≤ n := by
  rw [matchKeyword?, Option.map_eq_some_iff] at matched
  obtain ⟨first, found, rfl⟩ := matched
  obtain ⟨-, before, after, table, none_before⟩ := List.find?_eq_some_iff_append.mp found
  have ordered := (isKeywordTable_keywordTable phrases).ordered
  change (v.withKeywords phrases).keywords.Pairwise _ at ordered
  rw [table] at mem ordered
  rcases List.mem_append.mp mem with skipped | here
  · have passed := none_before keyword skipped
    rw [List.isPrefixOf_iff_prefix.mpr leading] at passed
    cases passed
  · rcases List.mem_cons.mp here with rfl | later
    · exact le_rfl
    · have behind := (List.pairwise_cons.mp (List.pairwise_append.mp ordered).2.1).1 keyword later
      omega

/-- **The longest phrase wins** among words. -/
theorem matchKeyword?_eq_some_iff_longest :
    (v.withKeywords phrases).matchKeyword? words = some n ↔ IsLongest phrases (Fits words) n := by
  have longest : ∀ n, (v.withKeywords phrases).matchKeyword? words = some n →
      IsLongest phrases (Fits words) n := by
    intro n matched
    obtain ⟨mem, within⟩ := mem_of_matchKeyword?_eq_some matched
    have length : ((words.take n).map Text.lower).length = n := by
      rw [List.length_map, List.length_take, min_eq_left within]
    obtain ⟨⟨phrase, phrase_mem, folded⟩, -⟩ := (mem_keywords_withKeywords_iff v).mp mem
    refine ⟨pos_of_matchKeyword?_eq_some phrases matched, ⟨phrase, phrase_mem, ?_, ?_⟩, ?_⟩
    · rw [Fits, folded, List.map_take]
      exact List.take_prefix n _
    · rw [← length, ← folded, List.length_map]
    · intro other other_mem fit
      rcases v.words_eq_nil_or_mem_keywords other_mem with blank | keyword
      · rw [blank]
        exact Nat.zero_le n
      · have length_le := v.length_le_of_matchKeyword?_eq_some matched keyword fit
        rwa [List.length_map] at length_le
  constructor
  · exact longest n
  · intro isLongest
    obtain ⟨phrase, mem, fit, length⟩ := isLongest.reached
    have nonempty : Text.words phrase ≠ [] := by
      rw [← List.length_pos_iff, length]
      exact isLongest.positive
    have keyword := (v.words_eq_nil_or_mem_keywords mem).resolve_left nonempty
    obtain ⟨m, matched⟩ := exists_matchKeyword? keyword fit
    rw [matched, (longest m matched).unique isLongest]

/-! ## At the start of a line -/

/-- No phrase has more words than the tokenizer looks at. -/
theorem length_words_le_longestPhrase {phrase : Text} (mem : phrase ∈ phrases) :
    (Text.words phrase).length ≤ (v.withKeywords phrases).longestPhrase := by
  rcases v.words_eq_nil_or_mem_keywords mem with blank | keyword
  · rw [blank]
    exact Nat.zero_le _
  · have length_le := v.length_le_longestPhrase phrases _ keyword
    rwa [List.length_map] at length_le

/-- The words that the tokenizer looks at begin with a phrase if the line does. -/
theorem fits_leadingWords_iff {phrase : Text} (mem : phrase ∈ phrases) :
    Fits ((leadingWords (v.withKeywords phrases).longestPhrase line).map Prod.fst) phrase ↔
      Speaks line phrase := by
  have enough := v.length_words_le_longestPhrase mem
  set limit := (v.withKeywords phrases).longestPhrase
  constructor
  · intro fit
    set k := (Text.words phrase).length
    refine ⟨(leadingWords limit line).take k, firstWords_of_prefix (List.take_prefix k _), ?_⟩
    rw [List.map_take, List.map_take]
    have taken := List.prefix_iff_eq_take.mp fit
    rw [List.length_map] at taken
    exact taken.symm
  · rintro ⟨found, first, same⟩
    have length : found.length = (Text.words phrase).length := by
      have lengths := congrArg List.length same
      simpa only [List.length_map] using lengths
    have begins := (firstWords_iff (length.le.trans enough)).mp first
    rw [Fits, ← same]
    exact (begins.map Prod.fst).map Text.lower

/-- The place where the n-th of the first words ends. -/
theorem exists_getElem?_leadingWords_iff {limit : Nat} (positive : 0 < n) (enough : n ≤ limit) :
    (∃ word, (leadingWords limit line)[n - 1]? = some (word, stop)) ↔
      ∃ found word, FirstWords 0 line found ∧ found.length = n ∧
        found.getLast? = some (word, stop) := by
  constructor
  · rintro ⟨word, here⟩
    have within : n ≤ (leadingWords limit line).length := by
      have := (List.getElem?_eq_some_iff.mp here).1
      omega
    have length : ((leadingWords limit line).take n).length = n := by
      rw [List.length_take, min_eq_left within]
    refine ⟨(leadingWords limit line).take n, word, firstWords_of_prefix (List.take_prefix n _),
      length, ?_⟩
    rw [List.getLast?_eq_getElem?, length, List.getElem?_take_of_lt (by omega), here]
  · rintro ⟨found, word, first, rfl, last⟩
    refine ⟨word, ?_⟩
    obtain ⟨more, split⟩ := (firstWords_iff enough).mp first
    rw [leadingWords, ← split, List.getElem?_append_left (by omega), ← List.getLast?_eq_getElem?, last]

/-- **The longest phrase wins** at the start of a line, and it ends where the last of so many words
ends. -/
theorem leadingKeyword?_eq_some_iff_longest :
    (v.withKeywords phrases).leadingKeyword? line = some (stop, n) ↔
      IsLongest phrases (Speaks line) n ∧
        ∃ found word, FirstWords 0 line found ∧ found.length = n ∧
          found.getLast? = some (word, stop) := by
  rw [leadingKeyword?_eq_some_iff, matchKeyword?_eq_some_iff_longest,
    isLongest_congr fun phrase mem => v.fits_leadingWords_iff mem]
  refine and_congr_right fun longest => ?_
  obtain ⟨phrase, mem, -, length⟩ := longest.reached
  exact exists_getElem?_leadingWords_iff longest.positive
    (length ▸ v.length_words_le_longestPhrase mem)

end StepScript.Vocabulary
