import Mathlib
import StepScript.Proofs.Phrase.LeadingWords

/-!
# The start of a line, said without its reader

**First words.** A line begins with words if it can be taken apart into runs of letters, each behind
blanks, up to a place where the letters of the last run end (`Scan.FirstWords`). Where a run ends no
letter follows, so the next run can only come after a blank. What the reader finds up to a limit is
the longest such beginning, and every other one is a beginning of it (`Scan.firstWords_iff`).

**Headings.** A heading is one word and a colon, with blanks before each (`Scan.IsHeading`). The
reader finds it exactly if the line begins with one (`Scan.heading?_eq_some_iff`).
-/

namespace StepScript.Scan

open Phrase

variable {c : Char} {p : Char → Bool} {gap word rest line run : Text} {start limit length : Nat}

/-! ## Runs of characters -/

/-- A run of characters ends where a character of another kind follows. -/
theorem takeWhile_run (all : ∀ c ∈ run, p c = true) (ends : ∀ c ∈ rest.head?, p c = false) :
    (run ++ rest).takeWhile p = run ∧ (run ++ rest).dropWhile p = rest := by
  rw [List.takeWhile_append_of_pos all, List.dropWhile_append_of_pos all]
  cases rest with
  | nil => simp
  | cons c rest =>
    have other : ¬ p c = true := by simp [ends c rfl]
    rw [List.takeWhile_cons_of_neg other, List.dropWhile_cons_of_neg other, List.append_nil]
    exact ⟨rfl, rfl⟩

/-- A word of letters does not begin with a blank. -/
theorem isBlank_head_of_letters (nonempty : word ≠ []) (letters : ∀ c ∈ word, isAlphabetic c = true)
    (rest : Text) : ∀ c ∈ (word ++ rest).head?, isBlank c = false := by
  cases word with
  | nil => exact absurd rfl nonempty
  | cons d word =>
    intro c first
    cases first
    exact isBlank_of_isAlphabetic (letters d List.mem_cons_self)

section Word

variable (blank : ∀ c ∈ gap, isBlank c = true) (nonempty : word ≠ [])
  (letters : ∀ c ∈ word, isAlphabetic c = true) (ends : ∀ c ∈ rest.head?, isAlphabetic c = false)

include blank nonempty letters ends

/-- **A word behind blanks is the leading word**, and what is behind it is left. -/
theorem leadingWord_append : leadingWord (gap ++ word ++ rest) = word ∧
    leadingWordLength (gap ++ word ++ rest) = gap.length + word.length ∧
      (gap ++ word ++ rest).drop (leadingWordLength (gap ++ word ++ rest)) = rest := by
  rw [List.append_assoc]
  obtain ⟨before, after⟩ := takeWhile_run blank (isBlank_head_of_letters nonempty letters rest)
  obtain ⟨here, behind⟩ := takeWhile_run letters ends
  have found : leadingWord (gap ++ (word ++ rest)) = word := by
    rw [leadingWord, afterBlanks, after, here]
  have length : leadingWordLength (gap ++ (word ++ rest)) = gap.length + word.length := by
    rw [leadingWordLength, found, if_neg nonempty, blanks, before]
  have some_length : leadingWordLength (gap ++ (word ++ rest)) ≠ 0 := by
    have := List.length_pos_iff.mpr nonempty
    omega
  refine ⟨found, length, ?_⟩
  rw [drop_leadingWordLength some_length, afterBlanks, after, behind]

end Word

/-! ## First words -/

/-- The line that goes on at `start` begins with the given words, each of them listed with the place
where it ends. Each is a run of letters behind blanks; where it ends no letter follows, so that two
of them have a blank between them. -/
inductive FirstWords : Nat → Text → List (Text × Nat) → Prop
  | none (start : Nat) (line : Text) : FirstWords start line []
  | next {start : Nat} {gap word rest : Text} {others : List (Text × Nat)}
      (blank : ∀ c ∈ gap, isBlank c = true) (nonempty : word ≠ [])
      (letters : ∀ c ∈ word, isAlphabetic c = true)
      (ends : ∀ c ∈ rest.head?, isAlphabetic c = false)
      (later : FirstWords (start + (gap.length + word.length)) rest others) :
      FirstWords start (gap ++ word ++ rest)
        ((word, start + (gap.length + word.length)) :: others)

variable {found : List (Text × Nat)}

/-- The leading word of a line is the first of its first words. -/
theorem FirstWords.leading (some_length : leadingWordLength line ≠ 0)
    (later : FirstWords (start + leadingWordLength line) (line.drop (leadingWordLength line))
      found) :
    FirstWords start line ((leadingWord line, start + leadingWordLength line) :: found) := by
  have ends : ∀ c ∈ (line.drop (leadingWordLength line)).head?, isAlphabetic c = false := by
    intro c first
    obtain ⟨rest, left⟩ := List.head?_eq_some_iff.mp first
    exact not_isAlphabetic_of_drop_eq_cons some_length left
  have length : (blanks line).length + (leadingWord line).length = leadingWordLength line := by
    rw [← List.length_append, length_blanks_append_leadingWord some_length]
  rw [← length] at later ends
  have begins := FirstWords.next (fun c => isBlank_of_mem_blanks) (leadingWord_ne_nil some_length)
    (fun c => isAlphabetic_of_mem_leadingWord) ends later
  rwa [length, drop_leadingWordLength some_length, append_leadingWord] at begins

/-- First words are found by the reader, if it looks for enough of them. -/
theorem FirstWords.prefix_leadingWordsFrom (first : FirstWords start line found)
    (enough : found.length ≤ limit) : found <+: leadingWordsFrom start limit line := by
  induction first generalizing limit with
  | none => exact List.nil_prefix
  | @next start gap word rest others blank nonempty letters ends later ih =>
    obtain ⟨limit, rfl⟩ : ∃ n, limit = n + 1 := Nat.exists_eq_add_one.mpr (by
      rw [List.length_cons] at enough
      omega)
    obtain ⟨here, length, behind⟩ := leadingWord_append blank nonempty letters ends
    have some_length : ¬ leadingWordLength (gap ++ word ++ rest) = 0 := by
      have := List.length_pos_iff.mpr nonempty
      omega
    rw [leadingWordsFrom, if_neg some_length, here, behind, length]
    exact List.cons_prefix_cons.mpr ⟨rfl, ih (Nat.le_of_succ_le_succ enough)⟩

/-- What the reader finds are first words, and so is every beginning of it. -/
theorem firstWords_of_prefix (h : found <+: leadingWordsFrom start limit line) :
    FirstWords start line found := by
  induction limit generalizing start line found with
  | zero =>
    rw [List.prefix_nil.mp h]
    exact .none start line
  | succ limit ih =>
    rw [leadingWordsFrom] at h
    split at h
    · rw [List.prefix_nil.mp h]
      exact .none start line
    · rename_i some_length
      cases found with
      | nil => exact .none start line
      | cons w others =>
        obtain ⟨rfl, rest⟩ := List.cons_prefix_cons.mp h
        exact (ih rest).leading some_length

/-- **First words of a line are a beginning of what the reader finds**, as far as it looks. -/
theorem firstWords_iff (enough : found.length ≤ limit) :
    FirstWords start line found ↔ found <+: leadingWordsFrom start limit line :=
  ⟨fun first => first.prefix_leadingWordsFrom enough, firstWords_of_prefix⟩

/-! ## Headings -/

/-- The text is a heading with the given word: the word and a colon, with blanks before each. -/
def IsHeading (word text : Text) : Prop :=
  ∃ gap space, text = gap ++ word ++ (space ++ [':']) ∧ (∀ c ∈ gap, isBlank c = true) ∧
    (∀ c ∈ space, isBlank c = true) ∧ word ≠ [] ∧ ∀ c ∈ word, isAlphabetic c = true

/-- A heading that a line begins with is found. -/
theorem heading?_append {text : Text} (heading : IsHeading word text) (rest : Text) :
    heading? (text ++ rest) = some (word, text.length) := by
  obtain ⟨gap, space, rfl, gap_blank, space_blank, nonempty, letters⟩ := heading
  have colon : ∀ c ∈ (':' :: rest).head?, isBlank c = false ∧ isAlphabetic c = false := by
    intro c first
    cases first
    decide
  have ends : ∀ c ∈ (space ++ ':' :: rest).head?, isAlphabetic c = false := by
    intro c first
    cases space with
    | nil => exact (colon c first).2
    | cons d space =>
      cases first
      exact isAlphabetic_of_isBlank (space_blank c List.mem_cons_self)
  have line_eq : gap ++ word ++ (space ++ [':']) ++ rest = gap ++ word ++ (space ++ ':' :: rest) := by
    simp only [List.append_assoc, List.singleton_append]
  obtain ⟨found, length, behind⟩ := leadingWord_append gap_blank nonempty letters ends
  obtain ⟨before, after⟩ := takeWhile_run space_blank fun c first => (colon c first).1
  have some_length : ¬ leadingWordLength (gap ++ word ++ (space ++ ':' :: rest)) = 0 := by
    have := List.length_pos_iff.mpr nonempty
    omega
  rw [line_eq, heading?, if_neg some_length, behind, afterBlanks, after, found, length, blanks,
    before]
  simp only [List.length_append, List.length_singleton, Nat.add_assoc]

/-- What is found as a heading is one with which the line begins. -/
theorem exists_heading_of_heading? (found : heading? line = some (word, length)) :
    ∃ text, text <+: line ∧ text.length = length ∧ IsHeading word text := by
  unfold heading? at found
  dsimp only at found
  split at found
  · cases found
  · rename_i some_length
    set after := line.drop (leadingWordLength line) with after_eq
    split at found
    · rename_i rest colon
      cases found
      have behind : blanks after ++ ':' :: rest = after := by
        rw [← colon, blanks_append_afterBlanks]
      refine ⟨blanks line ++ leadingWord line ++ (blanks after ++ [':']), ⟨rest, ?_⟩, ?_,
        blanks line, blanks after, rfl, fun c => isBlank_of_mem_blanks,
        fun c => isBlank_of_mem_blanks, leadingWord_ne_nil some_length,
        fun c => isAlphabetic_of_mem_leadingWord⟩
      · rw [List.append_assoc, List.append_assoc (blanks after), List.singleton_append, behind,
          after_eq, drop_leadingWordLength some_length, append_leadingWord]
      · rw [List.length_append, length_blanks_append_leadingWord some_length, List.length_append,
          List.length_singleton, ← Nat.add_assoc]
    · cases found

/-- **A heading is found exactly if the line begins with one.** -/
theorem heading?_eq_some_iff : heading? line = some (word, length) ↔
    ∃ text, text <+: line ∧ text.length = length ∧ IsHeading word text := by
  constructor
  · exact exists_heading_of_heading?
  · rintro ⟨text, ⟨rest, rfl⟩, rfl, heading⟩
    exact heading?_append heading rest

end StepScript.Scan
