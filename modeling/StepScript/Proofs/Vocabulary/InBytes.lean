import Mathlib
import StepScript.Proofs.Text.Slices
import StepScript.Proofs.Vocabulary.LeadingKeyword

/-!
# The leading keyword at byte offsets

**By slices.** A keyword at the start of a line is found by slices: of the line behind each word, to look
for the next one, and of each word (`Scan.wordsInBytes?`). A slice fails where it cannot be cut, and so
does looking up the last word of a keyword that has none (`Vocabulary.keywordInBytes?`).

**Neither happens.** The offsets are ends of initial parts of the line, made of the words and the blanks
before them (`Scan.wordsInBytes?_eq`), and no keyword is without words
(`Vocabulary.keywordInBytes?_eq`).
-/

namespace StepScript

namespace Scan

open Phrase

/-- The words at the start of a line, at most `limit`, each with the byte offset of its end. They are
looked for from a byte offset on, and any but the first one needs a blank before it. -/
def wordsInBytes? (line : Text) (isFirst : Bool) : Nat → Nat → Option (List (Text × Nat))
  | 0, _ => some []
  | limit + 1, position => do
    let rest ← line.slice? position line.byteLength
    let start := position + (blanks rest).byteLength
    let stop := start + (leadingWord rest).byteLength
    if isFirst = false ∧ blanks rest = [] ∨ leadingWord rest = [] then some []
    else
      let word ← line.slice? start stop
      let others ← wordsInBytes? line false limit stop
      some ((word, stop) :: others)

/-- No word is glued to a leading word. -/
theorem leadingWord_eq_nil_of_blanks_eq_nil {t : Text} (some_word : leadingWordLength t ≠ 0)
    (glued : blanks (t.drop (leadingWordLength t)) = []) :
    leadingWord (t.drop (leadingWordLength t)) = [] := by
  by_contra another
  obtain ⟨c, u, split, blank⟩ := exists_blank_of_leadingWordLength_ne_zero some_word
    (mt leadingWordLength_eq_zero_iff.mp another)
  rw [split, blanks, List.takeWhile_cons_of_pos blank] at glued
  cases glued

/-- **The leading words can be cut out**, and are those that the tokenizer finds. -/
theorem wordsInBytes?_eq {line front t : Text} (split : front ++ t = line) (isFirst : Bool)
    (apart : isFirst = false → blanks t = [] → leadingWord t = []) (limit : Nat) :
    wordsInBytes? line isFirst limit front.byteLength =
      some ((leadingWordsFrom front.length limit t).map fun w =>
        (w.1, Text.byteLength (line.take w.2))) := by
  induction limit generalizing front t isFirst with
  | zero => rfl
  | succ limit ih =>
    have rest : line.slice? front.byteLength line.byteLength = some t := by
      rw [← split, Text.slice?_append]
    rw [wordsInBytes?, rest, Option.bind_eq_bind, Option.bind_some, leadingWordsFrom]
    by_cases no_word : leadingWord t = []
    · rw [if_pos (.inr no_word), if_pos (leadingWordLength_eq_zero_iff.mpr no_word)]
      rfl
    have some_word : leadingWordLength t ≠ 0 := mt leadingWordLength_eq_zero_iff.mp no_word
    rw [if_neg (by simpa [no_word] using fun later glued => no_word (apart later glued)),
      if_neg some_word]
    -- The word ends with the initial part `upTo` of the line.
    obtain ⟨upTo, upTo_eq⟩ : ∃ upTo, upTo = front ++ blanks t ++ leadingWord t := ⟨_, rfl⟩
    have up_to : upTo ++ t.drop (leadingWordLength t) = line := by
      rw [upTo_eq, List.append_assoc front, ← take_leadingWordLength some_word, List.append_assoc,
        List.take_append_drop, split]
    have bytes : front.byteLength + (blanks t).byteLength + (leadingWord t).byteLength =
        upTo.byteLength := by
      rw [upTo_eq, Text.byteLength_append, Text.byteLength_append]
    have characters : front.length + leadingWordLength t = upTo.length := by
      rw [upTo_eq, ← length_blanks_append_leadingWord some_word, ← List.length_append,
        ← List.append_assoc]
    have word : line.slice? (front.byteLength + (blanks t).byteLength) upTo.byteLength =
        some (leadingWord t) := by
      rw [← bytes, ← Text.byteLength_append, Text.slice?_of_split (upTo_eq ▸ up_to)]
    have others := ih up_to false fun _ => leadingWord_eq_nil_of_blanks_eq_nil some_word
    rw [bytes, word, Option.bind_some, others, Option.bind_eq_bind, Option.bind_some, characters,
      List.map_cons, ← up_to, List.take_left]

end Scan

namespace Vocabulary

/-- The byte offset at which the keyword at the start of a line ends, if there is one. None if
something cannot be cut, or if the keyword has no last word. -/
def keywordInBytes? (v : Vocabulary) (line : Text) : Option (Option Nat) := do
  let words ← Scan.wordsInBytes? line true v.longestPhrase 0
  match v.matchKeyword? (words.map Prod.fst) with
  | none => some none
  | some count =>
    let last ← checkedSub count 1
    let word ← words[last]?
    some (some word.2)

/-- **The keyword at the start of a line can be cut out.** -/
theorem keywordInBytes?_eq (v : Vocabulary) (phrases : List Text) (line : Text) :
    (v.withKeywords phrases).keywordInBytes? line =
      some (((v.withKeywords phrases).leadingKeyword? line).map fun k =>
        Text.byteLength (line.take k.1)) := by
  have positive {words : List Text} {count : Nat}
      (matched : (v.withKeywords phrases).matchKeyword? words = some count) :=
    pos_of_matchKeyword?_eq_some phrases matched
  generalize v.withKeywords phrases = v at positive ⊢
  have cut : Scan.wordsInBytes? line true v.longestPhrase 0 =
      some ((Scan.leadingWords v.longestPhrase line).map fun w =>
        (w.1, Text.byteLength (line.take w.2))) :=
    Scan.wordsInBytes?_eq (List.nil_append line) true (by simp) _
  have texts : ((Scan.leadingWords v.longestPhrase line).map fun w =>
      (w.1, Text.byteLength (line.take w.2))).map Prod.fst =
        (Scan.leadingWords v.longestPhrase line).map Prod.fst := List.map_map
  rw [keywordInBytes?, cut, Option.bind_eq_bind, Option.bind_some, texts,
    Vocabulary.leadingKeyword?]
  cases matched : v.matchKeyword? ((Scan.leadingWords v.longestPhrase line).map Prod.fst) with
  | none => rfl
  | some count =>
    have some_word := positive matched
    have within := (Vocabulary.mem_of_matchKeyword?_eq_some matched).2
    rw [List.length_map] at within
    have last : count - 1 < (Scan.leadingWords v.longestPhrase line).length := by omega
    have subtracted : checkedSub count 1 = some (count - 1) := if_pos some_word
    simp only [subtracted, Option.bind_eq_bind, Option.bind_some, List.getElem?_map,
      List.getElem?_eq_getElem last, Option.map_some]

end Vocabulary

end StepScript
