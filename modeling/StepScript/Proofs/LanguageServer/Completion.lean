import Mathlib
import StepScript.LanguageServer.Completion
import StepScript.Proofs.Phrase.Ink
import StepScript.Proofs.Vocabulary.LeadingKeyword

/-!
# Whether completion replaces what it was asked for

**Two ideas of the leading keyword.** Steps are chosen by the words before the cursor, without the
keyword that these words begin with (`Catalog.suggest`). What an item replaces begins behind the
keyword that the tokenizer finds at the start of the whole line, unless that one goes beyond the
cursor (`LanguageServer.replaceStart`). The two see the same keyword if it has as many words for
both and a blank or the cursor follows it (`Vocabulary.KeywordsAgree`).

**The result.** An item replaces the words that it was chosen by exactly if the two agree
(`LanguageServer.replaced_words_iff`). If they do not, ink tells the texts apart: a keyword with
something glued to it is part of a longer word, and that word, or more, is still among the words
that steps are chosen by (`Phrase.not_same_of_glued`).

Lines on which the two do not agree are easily typed (`LanguageServer.replaced_words_apart`). One
keyword may begin with another one, and the cursor may be inside the longer one.
-/

namespace StepScript

namespace Vocabulary

/-- The leading keyword of a line, if it ends before the cursor: its length and its number of
words. -/
def keywordBefore? (v : Vocabulary) (line before : Text) : Option (Nat × Nat) :=
  (v.leadingKeyword? line).filter fun k => k.1 ≤ before.length

/-- The words before the cursor begin with the keyword that the line begins with, and nothing is
glued to it. -/
def KeywordsAgree (v : Vocabulary) (line before : Text) : Prop :=
  match v.keywordBefore? line before with
  | none => v.keywordLength (Phrase.words before) = 0
  | some (length, count) => v.keywordLength (Phrase.words before) = count ∧
      ∀ c ∈ (before.drop length).head?, isBlank c = true

end Vocabulary

namespace Phrase

variable {line before : Text} {length : Nat}

/-! ## The words before the cursor -/

/-- The words before the cursor, if the line has leading words up to `length`. The last one of them
begins a word that goes on with what follows. -/
theorem words_before {limit n : Nat} {word : Text}
    (found : (Scan.leadingWords limit line)[n]? = some (word, length))
    (prior : before <+: line) (fits : length ≤ before.length) :
    words before = ((Scan.leadingWords limit line).take n).map Prod.fst ++
      word.foldr Text.consHead (wordsFrom .inWord (before.drop length)) := by
  have front : before.take length = line.take length := by
    rw [List.prefix_iff_eq_take.mp prior, List.take_take, min_eq_left fits]
  have read := words_take_append found (before.drop length)
  rw [Nat.sub_zero, ← front, List.take_append_drop] at read
  exact read

/-! ## What is glued to a keyword -/

/-- **With something glued to the keyword, the words are not those behind it.** Neither the words
without some of the first ones nor those without the whole glued word have the ink of what follows
the keyword. -/
theorem not_same_of_glued {front all : List Text} {word u : Text} {c : Char}
    (split : all = front ++ word.foldr Text.consHead (wordsFrom .inWord (c :: u)))
    (some_ink : 0 < word.ink) (glued : isBlank c = false) (skip : Nat) :
    (words (c :: u)).map Text.lower ≠ (all.drop skip).map Text.lower := by
  intro same
  obtain ⟨first, pieces⟩ := consHead_eq c (wordsFrom .inWord u)
  set others := (wordsFrom .inWord u).tail
  have inWord : wordsFrom .inWord (c :: u) = (c :: first) :: others := by
    rw [wordsFrom, if_neg (by simp [glued]), pieces]
  have behind : Text.ink (c :: u) = Text.ink (c :: first) + Text.inkOfAll others := by
    rw [← inkOfAll_wordsFrom .inWord (c :: u), inWord, Text.inkOfAll_cons]
  rw [inWord, foldr_consHead] at split
  -- What is left out has the ink of everything up to the end of the keyword.
  have left_out : Text.inkOfAll (all.take skip) = Text.inkOfAll front + word.ink := by
    have parts := Text.inkOfAll_append (all.take skip) (all.drop skip)
    rw [List.take_append_drop, ← Text.inkOfAll_congr same, inkOfAll_words] at parts
    have total : Text.inkOfAll all =
        Text.inkOfAll front + (word.ink + Text.ink (c :: first) + Text.inkOfAll others) := by
      rw [split, Text.inkOfAll_append, Text.inkOfAll_cons, Text.ink_append]
    omega
  rcases Nat.lt_or_ge front.length skip with more | less
  · have included : Text.inkOfAll (front ++ [word ++ c :: first]) ≤
        Text.inkOfAll (all.take skip) := by
      have upto : all.take (front.length + 1) = front ++ [word ++ c :: first] := by
        rw [split, List.take_length_add_append]
        rfl
      rw [← upto]
      exact Text.inkOfAll_take_le all more
    rw [left_out, Text.inkOfAll_append, Text.inkOfAll_cons, Text.ink_append] at included
    have := Text.ink_pos (List.mem_cons_self (a := c) (l := first)) glued
    omega
  · have included : Text.inkOfAll (all.take skip) ≤ Text.inkOfAll front := by
      have upto : all.take front.length = front := by rw [split, List.take_left]
      conv_rhs => rw [← upto]
      exact Text.inkOfAll_take_le all less
    omega

end Phrase

namespace LanguageServer

open Vocabulary

variable {v : Vocabulary} {line before : Text}

/-! ## What is replaced -/

/-- The number of characters of the leading keyword that an item leaves alone. -/
def keptLength (v : Vocabulary) (line before : Text) : Nat :=
  ((v.keywordBefore? line before).map Prod.fst).getD 0

/-- The keyword that completion leaves alone is before the cursor. -/
theorem keptLength_le (v : Vocabulary) (line before : Text) :
    keptLength v line before ≤ before.length := by
  unfold keptLength keywordBefore?
  cases v.leadingKeyword? line with
  | none => exact Nat.zero_le _
  | some k =>
    by_cases fits : k.1 ≤ before.length
    · simp [Option.filter, fits]
    · simp [Option.filter, fits]

/-- Behind the keyword, blanks are left alone as well. -/
theorem replaceStart_eq (v : Vocabulary) (line before : Text) :
    replaceStart v line before = keptLength v line before +
      (Scan.blanks (before.drop (keptLength v line before))).length := by
  unfold replaceStart keptLength keywordBefore?
  cases v.leadingKeyword? line with
  | none => rfl
  | some k =>
    by_cases fits : k.1 ≤ before.length
    · simp [Option.filter, fits]
    · simp [Option.filter, fits]

/-- What is replaced lies before the cursor. -/
theorem replaceStart_le (v : Vocabulary) (line before : Text) :
    replaceStart v line before ≤ before.length := by
  have fits := keptLength_le v line before
  have blanks := Scan.length_takeWhile_le isBlank (before.drop (keptLength v line before))
  rw [List.length_drop] at blanks
  rw [replaceStart_eq, Scan.blanks]
  omega

/-- The words that are replaced are those behind the keyword. -/
theorem words_replaced (v : Vocabulary) (line before : Text) :
    Phrase.words (before.drop (replaceStart v line before)) =
      Phrase.words (before.drop (keptLength v line before)) := by
  rw [replaceStart_eq, ← List.drop_drop, Scan.blanks, Phrase.drop_length_takeWhile]
  exact Phrase.words_afterBlanks _

/-- Words of which some are left out are still all of them only if none is left out. -/
theorem map_lower_eq_drop_iff {words : List Text} {skip : Nat} (within : skip ≤ words.length) :
    words.map Text.lower = (words.drop skip).map Text.lower ↔ skip = 0 := by
  constructor
  · intro same
    have lengths := congrArg List.length same
    simp only [List.length_map, List.length_drop] at lengths
    omega
  · rintro rfl
    rfl

/-- The words replaced are those without the keyword if the two readings of it agree, and only
then. -/
theorem words_replaced_iff (phrases : List Text) (prior : before <+: line) :
    (Phrase.words (before.drop (replaceStart (v.withKeywords phrases) line before))).map
        Text.lower =
      ((Phrase.words before).drop
        ((v.withKeywords phrases).keywordLength (Phrase.words before))).map Text.lower ↔
      (v.withKeywords phrases).KeywordsAgree line before := by
  have within := ((v.withKeywords phrases).take_keywordLength (Phrase.words before)).2
  rw [words_replaced]
  unfold KeywordsAgree keptLength
  cases read : (v.withKeywords phrases).keywordBefore? line before with
  | none => exact map_lower_eq_drop_iff within
  | some k =>
    obtain ⟨length, count⟩ := k
    obtain ⟨found, fits⟩ := Option.filter_eq_some_iff.mp read
    obtain ⟨matched, word, last⟩ := leadingKeyword?_eq_some_iff.mp found
    obtain ⟨n, rfl⟩ : ∃ n, count = n + 1 :=
      Nat.exists_eq_succ_of_ne_zero (pos_of_matchKeyword?_eq_some phrases matched).ne'
    rw [Nat.add_sub_cancel] at last
    have split := Phrase.words_before last prior (of_decide_eq_true fits)
    set leading := Scan.leadingWords (v.withKeywords phrases).longestPhrase line
    have front_length : ((leading.take n).map Prod.fst).length = n := by
      rw [List.length_map, List.length_take, min_eq_left (List.getElem?_eq_some_iff.mp last).1.le]
    set front := (leading.take n).map Prod.fst
    dsimp only [Option.map_some, Option.getD_some]
    by_cases ends : ∀ c ∈ (before.drop length).head?, isBlank c = true
    · rw [Phrase.wordsFrom_inWord_of_blank ends, Phrase.foldr_consHead, List.append_nil] at split
      have behind : (Phrase.words before).drop (n + 1) = Phrase.words (before.drop length) := by
        rw [split, ← front_length, List.drop_length_add_append]
        rfl
      constructor
      · intro same
        have lengths := congrArg List.length same
        have all := congrArg List.length split
        rw [List.length_map, List.length_map, List.length_drop] at lengths
        rw [List.length_append, List.length_cons, front_length] at all
        exact ⟨by omega, ends⟩
      · rintro ⟨same, -⟩
        rw [same, behind]
    · refine iff_of_false ?_ (fun agreement => ends agreement.2)
      push Not at ends
      obtain ⟨c, first, glued⟩ := ends
      obtain ⟨u, rest⟩ := List.head?_eq_some_iff.mp first
      obtain ⟨nonempty, letters, -⟩ :=
        Phrase.of_mem_leadingWordsFrom (List.mem_of_getElem? last)
      obtain ⟨letter, mem⟩ := List.exists_mem_of_ne_nil word nonempty
      have some_ink : 0 < word.ink :=
        Text.ink_pos mem (isBlank_of_isAlphabetic (letters letter mem))
      rw [rest] at split ⊢
      exact Phrase.not_same_of_glued split some_ink (by simpa using glued) _

/-- **When completion replaces what it was asked for.** For any keywords, line and cursor, an item
replaces text before the cursor, and the steps offered are chosen by the words that were typed behind
the keyword, in lower case. These are the words that are replaced, up to letter case, exactly if the
two readings of the leading keyword agree. -/
theorem replaced_words_iff (v : Vocabulary) (phrases : List Text) (line : Text) (cursor : Nat) :
    let v := v.withKeywords phrases
    let before := line.take cursor
    let typed := (Phrase.words before).drop (v.keywordLength (Phrase.words before))
    replaceStart v line before ≤ before.length ∧
      (∀ catalog : Catalog, catalog.suggest before v =
        catalog.sorted.filter (·.isFoundBy (typed.map Text.lower))) ∧
      ((Phrase.words (before.drop (replaceStart v line before))).map Text.lower =
          typed.map Text.lower ↔ v.KeywordsAgree line before) :=
  ⟨replaceStart_le _ line _, fun _ => rfl,
    words_replaced_iff phrases (List.take_prefix cursor line)⟩

/-- Two keywords of which one begins with the other. -/
def nestedKeywords : Vocabulary := Vocabulary.empty.withKeywords ["and then".toList, "and".toList]

/-- **What is replaced is not always what was asked for.** Inside the longer keyword, steps are
chosen by what follows the shorter one, but the shorter one is replaced, too. A comma behind a
keyword is replaced without the keyword, which steps are still chosen by. -/
theorem replaced_words_apart :
    Phrase.words ("and t".toList.drop
        (replaceStart nestedKeywords "and then".toList ("and then".toList.take 5))) =
      ["and".toList, "t".toList] ∧
    (Phrase.words "and t".toList).drop
        (nestedKeywords.keywordLength (Phrase.words "and t".toList)) = ["t".toList] ∧
    Phrase.words ("and, x".toList.drop
        (replaceStart nestedKeywords "and, x".toList ("and, x".toList.take 6))) =
      [",".toList, "x".toList] ∧
    (Phrase.words "and, x".toList).drop
        (nestedKeywords.keywordLength (Phrase.words "and, x".toList)) =
      ["and,".toList, "x".toList] := by
  have keywords : nestedKeywords =
      ⟨[["and".toList, "then".toList], ["and".toList]], .empty, .empty, []⟩ := by
    have gathered : ["and then".toList, "and".toList].foldl addPhrase [] =
        [["and".toList, "then".toList], ["and".toList]] := by decide +kernel
    rw [nestedKeywords, withKeywords, keywordTable_of_pairwise gathered (by decide)]
    rfl
  rw [keywords]
  decide +kernel

end LanguageServer

end StepScript
