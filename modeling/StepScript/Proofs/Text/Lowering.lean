import Mathlib
import StepScript.Proofs.Character.Classes
import StepScript.Proofs.Text.Lines

/-!
# Lower case, piece by piece

**The one exception.** A text is lowered character by character, but for capital sigma, whose lower
case depends on what stands around it. Without one, a part of a text has for its lower case a part
of the lower case of the text (`Text.lower_infix`), whatever follows behind.

**Words.** What decides the form of a sigma does not reach over a blank: blanks are neither cased nor
passed over (`Text.blanks_decided`), and lowering makes no blank and takes none away. So the words of
a lowered text are the lowered words of the text (`Text.words_lower`).
-/

namespace StepScript.Text

variable {t u part : Text} {c : Char} {p : Char → Bool}

/-! ## Texts without capital sigma -/

/-- Up to the first capital sigma a text is lowered character by character. -/
theorem exists_lowerFrom_append (plain : 'Σ' ∉ t) (afterCased : Bool) (rest : Text) :
    ∃ after, lowerFrom afterCased (t ++ rest) = t.flatMap lowerChar ++ lowerFrom after rest := by
  induction t generalizing afterCased with
  | nil => exact ⟨afterCased, rfl⟩
  | cons c t ih =>
    rw [List.mem_cons, not_or] at plain
    obtain ⟨after, lowered⟩ := ih plain.2 (if isCaseIgnorable c then afterCased else isCased c)
    refine ⟨after, ?_⟩
    rw [List.cons_append, lowerFrom, lowered, lowerAt, if_neg (Ne.symm plain.1), List.flatMap_cons,
      List.append_assoc]

/-- A text without capital sigma is lowered character by character. -/
theorem lower_eq_flatMap (plain : 'Σ' ∉ t) : t.lower = t.flatMap lowerChar := by
  obtain ⟨after, lowered⟩ := exists_lowerFrom_append plain false []
  rw [List.append_nil] at lowered
  rw [lower, lowered]
  exact List.append_nil _

/-- **A part of a text without capital sigma stays a part**, whatever follows the text. -/
theorem lower_infix (plain : 'Σ' ∉ t) (h : part <:+: t) (rest : Text) :
    part.lower <:+: (t ++ rest).lower := by
  have part_plain : 'Σ' ∉ part := fun mem => plain (h.subset mem)
  obtain ⟨after, lowered⟩ := exists_lowerFrom_append plain false rest
  rw [lower_eq_flatMap part_plain, lower, lowered]
  obtain ⟨before, behind, rfl⟩ := h
  refine ⟨before.flatMap lowerChar, behind.flatMap lowerChar ++ lowerFrom after rest, ?_⟩
  simp only [List.flatMap_append, List.append_assoc]

/-! ## Pieces -/

/-- Characters that separate nothing begin the first piece. -/
theorem pieces_append (solid : ∀ c ∈ u, p c = false) {first : Text} {others : List Text}
    (h : pieces p t = first :: others) : pieces p (u ++ t) = (u ++ first) :: others := by
  induction u with
  | nil => exact h
  | cons c u ih =>
    rw [List.forall_mem_cons] at solid
    rw [List.cons_append, pieces, solid.1, ih solid.2]
    rfl

/-! ## Words -/

/-- No blank is cased, and none is passed over when a cased neighbour is looked for. -/
theorem blanks_decided : rangesApart blankRanges casedRanges = true ∧
    rangesApart blankRanges caseIgnorableRanges = true := by decide +kernel

/-- Blank characters have no case. -/
theorem isCased_of_isBlank (h : isBlank c = true) : isCased c = false :=
  inRanges_eq_false_of_rangesApart blanks_decided.1 h

/-- Blank characters are not passed over when the case of what is around is looked for. -/
theorem isCaseIgnorable_of_isBlank (h : isBlank c = true) : isCaseIgnorable c = false :=
  inRanges_eq_false_of_rangesApart blanks_decided.2 h

/-- The lower case of a character that is not blank holds no blank. -/
theorem isBlank_of_mem_lowerAt {afterCased : Bool} (solid : isBlank c = false) (rest : Text) :
    ∀ d ∈ lowerAt afterCased c rest, isBlank d = false := by
  intro d mem
  by_cases mark : isMark c = true
  · rw [lowerAt_of_isMark mark, List.mem_singleton] at mem
    exact mem ▸ solid
  · exact isBlank_of_not_isMark (isMark_of_mem_lowerAt (by simpa using mark) rest d mem)

/-- **Pieces are lowered one by one.** A cased character after a blank does not matter before it, nor
one before a blank behind it. -/
theorem pieces_lowerFrom (t : Text) : ∃ first others, pieces isBlank t = first :: others ∧
    startsCased first = startsCased t ∧ ∀ afterCased,
      pieces isBlank (lowerFrom afterCased t) = lowerFrom afterCased first :: others.map lower := by
  induction t with
  | nil => exact ⟨[], [], rfl, rfl, fun _ => rfl⟩
  | cons c t ih =>
    obtain ⟨first, others, split, ahead, lowered⟩ := ih
    by_cases blank : isBlank c = true
    · refine ⟨[], first :: others, ?_, ?_, fun afterCased => ?_⟩
      · rw [pieces, if_pos blank, split]
      · simp [startsCased, isCaseIgnorable_of_isBlank blank, isCased_of_isBlank blank]
      · have here : lowerFrom afterCased (c :: t) = c :: lowerFrom false t := by
          rw [lowerFrom, lowerAt_of_isMark (isMark_of_isBlank blank), isCaseIgnorable_of_isBlank blank,
            isCased_of_isBlank blank]
          rfl
        rw [here, pieces, if_pos blank, lowered]
        rfl
    · have solid : isBlank c = false := by simpa using blank
      refine ⟨c :: first, others, ?_, ?_, fun afterCased => ?_⟩
      · rw [pieces, if_neg blank, split]
        rfl
      · by_cases ignorable : isCaseIgnorable c = true
        · simpa [startsCased, ignorable] using ahead
        · simp [startsCased, ignorable]
      · have same : lowerAt afterCased c first = lowerAt afterCased c t := by
          rw [lowerAt, lowerAt, ahead]
        rw [lowerFrom, pieces_append (isBlank_of_mem_lowerAt solid t) (lowered _), lowerFrom, same]

/-- A text without characters is the only one without a lower case. -/
theorem lower_eq_nil_iff : t.lower = [] ↔ t = [] := by
  cases t with
  | nil => exact iff_of_true rfl rfl
  | cons c t => simp [lower, lowerFrom, lowerAt_ne_nil]

/-- **The words of a lowered text are the lowered words of the text.** -/
theorem words_lower (t : Text) : words t.lower = (words t).map lower := by
  obtain ⟨first, others, split, -, lowered⟩ := pieces_lowerFrom t
  have pieces_lower : pieces isBlank t.lower = (pieces isBlank t).map lower := by
    rw [lower, lowered, split]
    rfl
  have nonempty : ∀ piece : Text, decide (piece.lower ≠ []) = decide (piece ≠ []) := fun piece =>
    decide_eq_decide.mpr (not_congr lower_eq_nil_iff)
  rw [words, words, pieces_lower, List.filter_map]
  exact congrArg (fun keeps => ((pieces isBlank t).filter keeps).map lower) (funext nonempty)

end StepScript.Text
