import Mathlib
import StepScript.Phrase
import StepScript.Proofs.Character.Classes

/-!
# The ink of a text

**What is counted.** Taking a line apart into words loses blanks and nothing else. So what is there
besides blanks can be counted before and after: the ink of a text is the number of characters of its
lower case that are not blank (`Text.countP_lower`). One letter has a lower case of two characters,
so the lower case is counted and not the text.

**What it is for.** The words of a line have the ink of the line (`Phrase.inkOfAll_words`), and words
that agree in lower case have the same ink (`Text.inkOfAll_congr`). Two ways to take a line apart can
thereby be told from each other although a literal may swallow blanks.
-/

namespace StepScript

/-- The number of characters of the lower case of a character that are not blank. -/
def inkOf (c : Char) : Nat := (lowerChar c).countP (!isBlank ·)

/-- A blank leaves no ink. -/
theorem inkOf_of_isBlank {c : Char} (blank : isBlank c = true) : inkOf c = 0 := by
  simp [inkOf, lowerChar_of_isMark (isMark_of_isBlank blank), blank]

/-- Everything else does. -/
theorem inkOf_pos {c : Char} (solid : isBlank c = false) : 0 < inkOf c := by
  cases mark : isMark c with
  | true => simp [inkOf, lowerChar_of_isMark mark, solid]
  | false =>
    obtain ⟨d, mem⟩ := List.exists_mem_of_ne_nil _ (lowerChar_ne_nil c)
    have solid := isBlank_of_not_isMark (isMark_of_mem_lowerChar mark d mem)
    exact List.countP_pos_iff.mpr ⟨d, mem, by simp [solid]⟩

namespace Text

/-- The ink of a text. -/
def ink (t : Text) : Nat := (t.map inkOf).sum

/-- An empty text has no ink. -/
@[simp] theorem ink_nil : ink [] = 0 := rfl

/-- The ink of a first character and of the others. -/
@[simp] theorem ink_cons (c : Char) (t : Text) : ink (c :: t) = inkOf c + ink t := by
  simp [ink]

/-- The ink of two texts adds up. -/
@[simp] theorem ink_append (t u : Text) : ink (t ++ u) = ink t + ink u := by
  simp [ink]

/-- A text that is more than blanks has ink. -/
theorem ink_pos {t : Text} {c : Char} (mem : c ∈ t) (solid : isBlank c = false) : 0 < ink t := by
  have here : inkOf c ≤ ink t := List.le_sum_of_mem (List.mem_map_of_mem mem)
  exact (inkOf_pos solid).trans_le here

/-- Neither lower case of a capital sigma is blank. -/
theorem countP_lowerAt (afterCased : Bool) (c : Char) (rest : Text) :
    (lowerAt afterCased c rest).countP (!isBlank ·) = inkOf c := by
  unfold lowerAt
  by_cases sigma : c = 'Σ'
  · subst sigma
    rw [if_pos rfl]
    cases afterCased && !startsCased rest <;> decide +kernel
  · rw [if_neg sigma]
    rfl

/-- Lowering a text leaves as many characters that are not blank as it has ink. -/
theorem countP_lowerFrom (afterCased : Bool) (t : Text) :
    (lowerFrom afterCased t).countP (!isBlank ·) = ink t := by
  induction t generalizing afterCased with
  | nil => rfl
  | cons c t ih => rw [lowerFrom, List.countP_append, countP_lowerAt, ih, ink_cons]

/-- **The ink of a text is what its lower case has besides blanks.** -/
theorem countP_lower (t : Text) : t.lower.countP (!isBlank ·) = ink t := countP_lowerFrom false t

/-! ## The ink of several words -/

/-- The ink of all words of a list. -/
def inkOfAll (words : List Text) : Nat := (words.map ink).sum

/-- No words have no ink. -/
@[simp] theorem inkOfAll_nil : inkOfAll [] = 0 := rfl

/-- The ink of a first word and of the others. -/
@[simp] theorem inkOfAll_cons (word : Text) (words : List Text) :
    inkOfAll (word :: words) = ink word + inkOfAll words := by
  simp [inkOfAll]

/-- The ink of words in two parts adds up. -/
@[simp] theorem inkOfAll_append (words others : List Text) :
    inkOfAll (words ++ others) = inkOfAll words + inkOfAll others := by
  simp [inkOfAll]

/-- More words have at least as much ink. -/
theorem inkOfAll_take_le (words : List Text) {m n : Nat} (le : m ≤ n) :
    inkOfAll (words.take m) ≤ inkOfAll (words.take n) := by
  have fewer : (words.take m).Sublist (words.take n) := (List.take_prefix_take_left le).sublist
  exact (fewer.map ink).sum_le_sum fun _ _ => Nat.zero_le _

/-- Words that agree in lower case have the same ink. -/
theorem inkOfAll_congr {words others : List Text} (same : words.map lower = others.map lower) :
    inkOfAll words = inkOfAll others := by
  have counts := congrArg (List.map fun t : Text => t.countP (!isBlank ·)) same
  simp only [List.map_map, Function.comp_def, countP_lower] at counts
  rw [inkOfAll, counts, inkOfAll]

end Text

namespace Phrase

/-- A character in front of the first piece adds its ink. -/
theorem inkOfAll_consHead (c : Char) (pieces : List Text) :
    Text.inkOfAll (Text.consHead c pieces) = inkOf c + Text.inkOfAll pieces := by
  cases pieces with
  | nil => simp [Text.consHead]
  | cons first others => simp [Text.consHead, Nat.add_assoc]

/-- Cutting a text into words loses no ink. -/
theorem inkOfAll_wordsFrom (p : Position) (t : Text) :
    Text.inkOfAll (wordsFrom p t) = Text.ink t := by
  induction t generalizing p with
  | nil => cases p <;> rfl
  | cons c t ih =>
    cases p with
    | between =>
      by_cases blank : isBlank c = true
      · rw [wordsFrom, if_pos blank, ih, Text.ink_cons, inkOf_of_isBlank blank, Nat.zero_add]
      · rw [wordsFrom, if_neg blank, inkOfAll_consHead, ih, Text.ink_cons]
    | inWord =>
      by_cases blank : isBlank c = true
      · rw [wordsFrom, if_pos blank, Text.inkOfAll_cons, ih, Text.ink_nil, Text.ink_cons,
          inkOf_of_isBlank blank]
      · rw [wordsFrom, if_neg blank, inkOfAll_consHead, ih, Text.ink_cons]
    | inLiteral close => rw [wordsFrom, inkOfAll_consHead, ih, Text.ink_cons]

/-- **The words of a line have the ink of the line.** -/
theorem inkOfAll_words (t : Text) : Text.inkOfAll (words t) = Text.ink t :=
  inkOfAll_wordsFrom .between t

end Phrase

end StepScript
