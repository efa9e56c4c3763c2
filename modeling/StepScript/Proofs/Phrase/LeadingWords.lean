import Mathlib
import StepScript.Proofs.Character.Classes
import StepScript.Proofs.Grammar.Rules
import StepScript.Proofs.Phrase.Words

/-!
# The first words of a line, read in two ways

**Two readers.** The tokenizer takes runs of alphabetic characters off the start of a line
(`Scan.leadingWords`); a word of a phrase goes on to the next blank (`Phrase.words`). A keyword is
looked for by the first reader when a line gets its tokens, and by the second one when steps are
looked up, listed or checked.

**From the first reader to the second.** A leading word that a blank follows is a word. One that
something else follows is the start of a longer word, to which what comes next is glued. In both
cases `words_take_append` says what the words of the line are, whatever follows.

**From the second to the first.** As long as words are alphabetic, they are the leading words
(`leadingWords_of_words`).
-/

namespace StepScript.Phrase

open Scan

variable {c : Char} {t w : Text} {rest : List Text}

/-! ## Blanks between words -/

/-- The first blanks of a line are blank. -/
theorem isBlank_of_mem_blanks (mem : c ∈ blanks t) : isBlank c = true := List.mem_takeWhile_imp mem

/-- What follows a run of characters at the start. -/
theorem drop_length_takeWhile (p : Char → Bool) (t : Text) :
    t.drop (t.takeWhile p).length = t.dropWhile p := by
  have parts : t.takeWhile p ++ t.dropWhile p = t := List.takeWhile_append_dropWhile
  conv_lhs => arg 2; rw [← parts]
  exact List.drop_left

/-- Blanks in front of a line do not matter. -/
theorem words_append_of_blank {front : Text} (blank : ∀ c ∈ front, isBlank c = true) (t : Text) :
    words (front ++ t) = words t := by
  induction front with
  | nil => rfl
  | cons c front ih =>
    rw [List.forall_mem_cons] at blank
    rw [List.cons_append, words, wordsFrom, if_pos blank.1]
    exact ih blank.2

/-- The words of a line are those of what follows its first blanks. -/
theorem words_afterBlanks (t : Text) : words (afterBlanks t) = words t := by
  rw [← words_append_of_blank fun c => isBlank_of_mem_blanks, blanks_append_afterBlanks]

/-- What follows the first blanks begins with another character. -/
theorem isBlank_of_afterBlanks_eq_cons (h : afterBlanks t = c :: w) : isBlank c = false := by
  have first := List.head?_dropWhile_not isBlank t
  rwa [show t.dropWhile isBlank = c :: w from h] at first

/-- At the end of a line or before a blank, a word is complete. -/
theorem wordsFrom_inWord_of_blank (ends : ∀ c ∈ t.head?, isBlank c = true) :
    wordsFrom .inWord t = [] :: words t := by
  cases t with
  | nil => rfl
  | cons c t =>
    have blank : isBlank c = true := ends c rfl
    rw [wordsFrom, if_pos blank, words, wordsFrom, if_pos blank]

/-! ## Alphabetic words -/

/-- An alphabetic text is read as one word that is not complete. -/
theorem through?_of_isAlphabetic (nonempty : w ≠ []) (letters : ∀ c ∈ w, isAlphabetic c = true) :
    Position.between.through? w = some .inWord := by
  cases w with
  | nil => exact absurd rfl nonempty
  | cons c w =>
    rw [List.forall_mem_cons] at letters
    have begins : Position.between.next? c = some .inWord := by
      rw [Position.next?, if_neg (by simp [isBlank_of_isAlphabetic letters.1]), Position.opening,
        ofOpening?_of_isAlphabetic letters.1]
    rw [Position.through?_cons begins]
    exact Position.through?_inWord fun d mem => isBlank_of_isAlphabetic (letters.2 d mem)

/-- Within a word, an alphabetic first piece is a run of alphabetic characters up to a blank. -/
theorem takeWhile_of_wordsFrom_inWord (h : wordsFrom .inWord t = w :: rest)
    (letters : ∀ c ∈ w, isAlphabetic c = true) :
    t.takeWhile isAlphabetic = w ∧ words (t.drop w.length) = rest := by
  induction t generalizing w with
  | nil =>
    cases h
    exact ⟨rfl, rfl⟩
  | cons c t ih =>
    by_cases blank : isBlank c = true
    · have not_letter : ¬isAlphabetic c = true := by simp [isAlphabetic_of_isBlank blank]
      rw [wordsFrom, if_pos blank] at h
      cases h
      rw [List.takeWhile_cons_of_neg not_letter]
      refine ⟨rfl, ?_⟩
      rw [List.length_nil, List.drop_zero, words, wordsFrom, if_pos blank]
    · rw [wordsFrom, if_neg blank] at h
      obtain ⟨first, pieces⟩ : ∃ first, wordsFrom .inWord t = first :: rest ∧ c :: first = w := by
        cases found : wordsFrom .inWord t with
        | nil => exact absurd found (wordsFrom_inWord_ne_nil t)
        | cons first others =>
          rw [found, Text.consHead, List.cons.injEq] at h
          exact ⟨first, by rw [h.2], h.1⟩
      obtain ⟨pieces, rfl⟩ := pieces
      rw [List.forall_mem_cons] at letters
      obtain ⟨run, others⟩ := ih pieces letters.2
      rw [List.takeWhile_cons_of_pos letters.1, run]
      exact ⟨rfl, others⟩

/-! ## The leading word -/

/-- A leading word has letters only. -/
theorem isAlphabetic_of_mem_leadingWord (mem : c ∈ leadingWord t) : isAlphabetic c = true :=
  List.mem_takeWhile_imp mem

/-- There is no leading word exactly if it takes no characters. -/
theorem leadingWordLength_eq_zero_iff : leadingWordLength t = 0 ↔ leadingWord t = [] := by
  refine ⟨fun none_taken => ?_, fun none_there => if_pos none_there⟩
  by_contra some_word
  have := List.length_pos_iff.mpr some_word
  rw [leadingWordLength, if_neg some_word] at none_taken
  omega

/-- There is a leading word if it takes characters. -/
theorem leadingWord_ne_nil (h : leadingWordLength t ≠ 0) : leadingWord t ≠ [] :=
  mt leadingWordLength_eq_zero_iff.mpr h

/-- A line is made of blanks, its leading word, and what follows its letters. -/
theorem append_leadingWord (t : Text) :
    (blanks t ++ leadingWord t) ++ (afterBlanks t).dropWhile isAlphabetic = t := by
  rw [List.append_assoc, leadingWord, List.takeWhile_append_dropWhile, blanks_append_afterBlanks]

/-- What a leading word takes are the blanks before it and its letters. -/
theorem length_blanks_append_leadingWord (h : leadingWordLength t ≠ 0) :
    (blanks t ++ leadingWord t).length = leadingWordLength t := by
  rw [leadingWordLength, if_neg (leadingWord_ne_nil h), List.length_append]

/-- These are the first characters of the text. -/
theorem take_leadingWordLength (h : leadingWordLength t ≠ 0) :
    t.take (leadingWordLength t) = blanks t ++ leadingWord t := by
  conv_lhs => arg 2; rw [← append_leadingWord t]
  exact List.take_left' (length_blanks_append_leadingWord h)

/-- What a leading word leaves is what follows its letters. -/
theorem drop_leadingWordLength (h : leadingWordLength t ≠ 0) :
    t.drop (leadingWordLength t) = (afterBlanks t).dropWhile isAlphabetic := by
  conv_lhs => arg 2; rw [← append_leadingWord t]
  exact List.drop_left' (length_blanks_append_leadingWord h)

/-- What a leading word leaves does not go on with a letter. -/
theorem not_isAlphabetic_of_drop_eq_cons (h : leadingWordLength t ≠ 0)
    (left : t.drop (leadingWordLength t) = c :: w) : isAlphabetic c = false := by
  rw [drop_leadingWordLength h] at left
  have first := List.head?_dropWhile_not isAlphabetic (afterBlanks t)
  rwa [left] at first

/-- Behind a leading word, another one can only follow after a blank. -/
theorem exists_blank_of_leadingWordLength_ne_zero (h : leadingWordLength t ≠ 0)
    (later : leadingWordLength (t.drop (leadingWordLength t)) ≠ 0) :
    ∃ c u, t.drop (leadingWordLength t) = c :: u ∧ isBlank c = true := by
  cases left : t.drop (leadingWordLength t) with
  | nil =>
    rw [left] at later
    exact absurd rfl later
  | cons c u =>
    refine ⟨c, u, rfl, ?_⟩
    by_contra solid
    apply leadingWord_ne_nil later
    rw [left, leadingWord, afterBlanks, List.dropWhile_cons_of_neg solid,
      List.takeWhile_cons_of_neg (by simp [not_isAlphabetic_of_drop_eq_cons h left])]

/-- **The words of a line whose first word begins with letters.** They are cut where the letters
end, and go on with whatever follows. -/
theorem words_take_leadingWordLength (h : leadingWordLength t ≠ 0) (q : Text) :
    words (t.take (leadingWordLength t) ++ q) =
      (leadingWord t).foldr Text.consHead (wordsFrom .inWord q) := by
  have letters : Position.between.through? (leadingWord t) = some .inWord :=
    through?_of_isAlphabetic (leadingWord_ne_nil h) fun c => isAlphabetic_of_mem_leadingWord
  rw [take_leadingWordLength h, List.append_assoc,
    words_append_of_blank fun c => isBlank_of_mem_blanks, words, wordsFrom_append letters]

/-- **A first word of letters is the leading word**, and the other words are behind it. -/
theorem leadingWord_of_words (h : words t = w :: rest) (letters : ∀ c ∈ w, isAlphabetic c = true) :
    leadingWord t = w ∧ leadingWordLength t ≠ 0 ∧ words (t.drop (leadingWordLength t)) = rest := by
  rw [← words_afterBlanks, words] at h
  cases solid : afterBlanks t with
  | nil =>
    rw [solid] at h
    cases h
  | cons c u =>
    have not_blank : ¬isBlank c = true := by simp [isBlank_of_afterBlanks_eq_cons solid]
    obtain ⟨first, pieces⟩ := consHead_eq c (wordsFrom (.opening c) u)
    have begins : c :: first = w := by
      rw [solid, wordsFrom, if_neg not_blank, pieces, List.cons.injEq] at h
      exact h.1
    have inWord : Position.opening c = .inWord := by
      rw [Position.opening, ofOpening?_of_isAlphabetic (letters c (by simp [← begins]))]
    -- A letter opens no literal, so the word can be read from within.
    have within : wordsFrom .inWord (afterBlanks t) = w :: rest := by
      rw [← h, solid, wordsFrom, wordsFrom, if_neg not_blank, if_neg not_blank, inWord]
    obtain ⟨run, others⟩ := takeWhile_of_wordsFrom_inWord within letters
    have some_word : leadingWord t ≠ [] := by
      rw [leadingWord, run, ← begins]
      simp
    have some_length : leadingWordLength t ≠ 0 := by
      rw [leadingWordLength, if_neg some_word]
      have := List.length_pos_iff.mpr some_word
      omega
    refine ⟨run, some_length, ?_⟩
    rw [drop_leadingWordLength some_length, ← others, ← run, drop_length_takeWhile]

/-! ## Several leading words -/

/-- Leading words are not empty and have letters only. -/
theorem of_mem_leadingWordsFrom {start limit stop : Nat}
    (mem : (w, stop) ∈ leadingWordsFrom start limit t) :
    w ≠ [] ∧ (∀ c ∈ w, isAlphabetic c = true) ∧ start < stop := by
  induction limit generalizing start t with
  | zero => simp [leadingWordsFrom] at mem
  | succ limit ih =>
    rw [leadingWordsFrom] at mem
    split at mem
    · simp at mem
    · rename_i some_length
      rcases List.mem_cons.mp mem with same | later
      · cases same
        exact ⟨leadingWord_ne_nil some_length, fun c => isAlphabetic_of_mem_leadingWord, by omega⟩
      · obtain ⟨nonempty, letters, behind⟩ := ih later
        exact ⟨nonempty, letters, by omega⟩

/-- **The words of a line that begins with leading words.** The first `i` ones are words, and the
next one begins a word, whatever follows it. -/
theorem words_take_append {start limit i stop : Nat}
    (found : (leadingWordsFrom start limit t)[i]? = some (w, stop)) (q : Text) :
    words (t.take (stop - start) ++ q) =
      ((leadingWordsFrom start limit t).take i).map Prod.fst ++
        w.foldr Text.consHead (wordsFrom .inWord q) := by
  induction limit generalizing start t i with
  | zero => simp [leadingWordsFrom] at found
  | succ limit ih =>
    rw [leadingWordsFrom] at found ⊢
    split at found
    · simp at found
    · rename_i some_length
      rw [if_neg some_length]
      cases i with
      | zero =>
        simp only [List.getElem?_cons_zero, Option.some.injEq, Prod.mk.injEq] at found
        obtain ⟨rfl, rfl⟩ := found
        rw [Nat.add_sub_cancel_left, words_take_leadingWordLength some_length]
        simp
      | succ i =>
        rw [List.getElem?_cons_succ] at found
        have behind : start + leadingWordLength t < stop :=
          (of_mem_leadingWordsFrom (List.mem_of_getElem? found)).2.2
        have later : leadingWordLength (t.drop (leadingWordLength t)) ≠ 0 := by
          intro none_left
          cases limit <;> simp [leadingWordsFrom, none_left] at found
        obtain ⟨c, u, left, blank⟩ := exists_blank_of_leadingWordLength_ne_zero some_length later
        set n := stop - (start + leadingWordLength t) with n_eq
        have parts : t.take (stop - start) =
            t.take (leadingWordLength t) ++ (t.drop (leadingWordLength t)).take n := by
          rw [← List.take_add]
          congr 1
          omega
        have complete : wordsFrom .inWord ((t.drop (leadingWordLength t)).take n ++ q) =
            [] :: words ((t.drop (leadingWordLength t)).take n ++ q) := by
          obtain ⟨m, n_succ⟩ : ∃ m, n = m + 1 := ⟨n - 1, by omega⟩
          rw [n_succ, left]
          exact wordsFrom_inWord_of_blank fun d first => by
            cases first
            exact blank
        rw [parts, List.append_assoc, words_take_leadingWordLength some_length, complete,
          foldr_consHead, List.append_nil, ih found, List.take_succ_cons, List.map_cons,
          List.cons_append]

/-- **Words of letters at the start of a line are its leading words.** -/
theorem leadingWords_of_words {front : List Text} {start limit : Nat} (enough : front.length ≤ limit)
    (h : words t = front ++ rest) (letters : ∀ w ∈ front, ∀ c ∈ w, isAlphabetic c = true) :
    front <+: (leadingWordsFrom start limit t).map Prod.fst := by
  induction front generalizing start limit t with
  | nil => exact List.nil_prefix
  | cons w front ih =>
    rw [List.forall_mem_cons] at letters
    obtain ⟨limit, rfl⟩ : ∃ fewer, limit = fewer + 1 := ⟨limit - 1, by simp at enough; omega⟩
    obtain ⟨same, some_length, others⟩ := leadingWord_of_words h letters.1
    rw [leadingWordsFrom, if_neg some_length, List.map_cons, same, List.prefix_cons_inj]
    exact ih (by simpa using enough) others letters.2

end StepScript.Phrase
