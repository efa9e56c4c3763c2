import Mathlib
import StepScript.Proofs.Character.Classes
import StepScript.Proofs.Phrase.Words
import StepScript.Vocabulary

/-!
# Keys meet only if the literal words do

**What a key is made of.** The literal words of a line are those that its keyword and its
placeholders leave, in lower case (`Vocabulary.literalWords`). The key of the line joins them by
single spaces, and steps are told apart by their keys only. A word may hold spaces, and a literal
that is not closed goes on to the end of its line, so it is not plain that a key still shows which
words it was made of.

**Why it does.** The words of a line are well-formed: each of them is read as one word, and all but
the last are closed. Leaving words out keeps that (`Phrase.WellFormed.sublist`), and so does lower
case: it changes no mark, and a word is read by its marks alone (`Phrase.Position.through?_lowerFrom`).
Well-formed words are the words of the text that they make, and so the words of a key are the literal
words of its line.
-/

namespace StepScript

namespace Phrase

/-! ## Lower case keeps words whole -/

namespace Position

/-- If a literal is open, a delimiter closes it. -/
def Delimited : Position → Prop
  | .inLiteral close => ∃ d : Delimiter, close = d.closing
  | _ => True

/-- The position after a character that is no mark. -/
def onward : Position → Position
  | .between => .inWord
  | p => p

variable {p q : Position} {c : Char} {t : Text}

/-- Between words no literal is open. -/
theorem delimited_between : between.Delimited := trivial

/-- The first character of a word opens a literal that a delimiter closes, or none. -/
theorem delimited_opening (c : Char) : (opening c).Delimited := by
  unfold opening
  split
  · exact ⟨_, rfl⟩
  · trivial

/-- Within a word, too, only delimiters close literals. -/
theorem Delimited.next? (delimited : p.Delimited) (h : p.next? c = some q) : q.Delimited := by
  cases p with
  | between =>
    rw [Position.next?] at h
    split at h
    · cases h
    · cases h
      exact delimited_opening c
  | inWord =>
    rw [Position.next?] at h
    split at h
    · cases h
    · cases h
      trivial
  | inLiteral close =>
    cases h
    split
    · trivial
    · exact delimited

/-- A character that is no mark neither ends a word nor opens or closes a literal. -/
theorem next?_of_not_isMark (delimited : p.Delimited) (plain : isMark c = false) :
    p.next? c = some p.onward := by
  have solid := isBlank_of_not_isMark plain
  cases p with
  | between => simp [Position.next?, onward, opening, solid, ofOpening?_of_not_isMark plain]
  | inWord => simp [Position.next?, onward, solid]
  | inLiteral close =>
    obtain ⟨d, rfl⟩ := delimited
    simp [Position.next?, onward, ne_closing_of_not_isMark plain d]

/-- Nor does a text without marks. -/
theorem through?_of_not_isMark (delimited : p.Delimited) (nonempty : t ≠ [])
    (plain : ∀ c ∈ t, isMark c = false) : p.through? t = some p.onward := by
  induction t generalizing p with
  | nil => exact absurd rfl nonempty
  | cons c t ih =>
    rw [List.forall_mem_cons] at plain
    have next := next?_of_not_isMark delimited plain.1
    rw [through?_cons next]
    cases t with
    | nil => rfl
    | cons d t =>
      have again : p.onward.onward = p.onward := by cases p <;> rfl
      rw [ih (delimited.next? next) (by simp) plain.2, again]

/-- **A text is read alike in lower case.** -/
theorem through?_lowerFrom (delimited : p.Delimited) (h : p.through? t = some q)
    (afterCased : Bool) : p.through? (Text.lowerFrom afterCased t) = some q := by
  induction t generalizing p afterCased with
  | nil => exact h
  | cons c t ih =>
    cases next : p.next? c with
    | none =>
      rw [through?, next] at h
      cases h
    | some r =>
      rw [through?_cons next] at h
      have first : p.through? (Text.lowerAt afterCased c t) = some r := by
        cases mark : isMark c with
        | true =>
          rw [Text.lowerAt_of_isMark mark, through?_cons next]
          rfl
        | false =>
          rw [next?_of_not_isMark delimited mark] at next
          rw [← next]
          exact through?_of_not_isMark delimited (Text.lowerAt_ne_nil afterCased c t)
            (Text.isMark_of_mem_lowerAt mark t)
      rw [Text.lowerFrom, through?_append first]
      exact ih (delimited.next? next) h _

end Position

/-- Words in lower case are kept apart as the words are. -/
theorem WellFormed.map_lower {ws : List Text} (formed : WellFormed .between ws) :
    WellFormed .between (ws.map Text.lower) := by
  apply formed.map
  · rintro word ⟨q, read, begun⟩
    exact ⟨q, Position.through?_lowerFrom Position.delimited_between read false, begun⟩
  · intro word closed
    exact Position.through?_lowerFrom Position.delimited_between closed false

end Phrase

namespace Vocabulary

/-! ## The literal words of a line -/

/-- The words of a line without its keyword and its placeholders, in lower case. -/
def literalWords (v : Vocabulary) (line : Text) : List Text :=
  (((Phrase.words line).drop (v.keywordLength (Phrase.words line))).filter
    fun word => (Placeholder.ofWord? word).isNone).map Text.lower

/-- They are well-formed. -/
theorem wellFormed_literalWords (v : Vocabulary) (line : Text) :
    Phrase.WellFormed .between (v.literalWords line) := by
  apply Phrase.WellFormed.map_lower
  apply (Phrase.wellFormed_words line).sublist
  exact List.filter_sublist.trans (List.drop_sublist _ _)

/-- **Keys meet only if the literal words do.** The words of any text, joined by single spaces, are
the words of what they make. So the key of a line still shows its literal words, under whatever
vocabulary, and two lines have one key exactly if they have the same literal words. Lower case
neither adds nor removes blanks and delimiters, so nothing is assumed of it. -/
theorem stepKey_tells_literalWords (v : Vocabulary) :
    (∀ text, Phrase.words (Text.unwords (Phrase.words text)) = Phrase.words text) ∧
      (∀ line, Phrase.words (v.stepKey (Phrase.words line)) = v.literalWords line) ∧
      ∀ line other, v.stepKey (Phrase.words line) = v.stepKey (Phrase.words other) ↔
        v.literalWords line = v.literalWords other := by
  have shown : ∀ line, Phrase.words (v.stepKey (Phrase.words line)) = v.literalWords line := by
    intro line
    exact Phrase.words_unwords (v.wellFormed_literalWords line)
  refine ⟨fun text => Phrase.words_unwords (Phrase.wellFormed_words text), shown, ?_⟩
  intro line other
  constructor
  · intro same
    rw [← shown line, same, shown other]
  · intro same
    exact congrArg Text.unwords same

end Vocabulary

end StepScript
