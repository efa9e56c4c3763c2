import Mathlib
import StepScript.Character.Alphabetic
import StepScript.Character.Blank
import StepScript.Character.DecimalDigit
import StepScript.Delimiter
import StepScript.Text.Lower

/-!
# How the classes of characters lie to each other

The classes of characters are tables of code ranges, and so is the lower case. Little of them
matters elsewhere, and all of it is read off the tables here.

* A line is taken apart at its marks: at blanks, and at the delimiters of literals (`isMark`). No
  alphabetic character is one (`isMark_of_isAlphabetic`). No digit is one either, and none is
  alphabetic.
* Only alphabetic characters have a lower case other than themselves (`lowerChar_eq_self`), so a
  text whose lower case is alphabetic is alphabetic itself (`Text.isAlphabetic_of_lower`).
* A mark is its own lower case, and no other character has one in its lower case
  (`Text.lowerAt_of_isMark`, `Text.isMark_of_mem_lowerAt`).

What concerns two whole tables is decided by the ends of their ranges. The characters in between
are looked at one by one only for a run of lower case that no single range holds.
-/

namespace StepScript

/-! ## Tables of ranges -/

/-- Whether one of the ranges holds everything from `first` to `last`. -/
def coversRange (ranges : List (Nat × Nat)) (first last : Nat) : Bool :=
  ranges.any fun r => Nat.ble r.1 first && Nat.ble last r.2

/-- Whether no range of one table meets a range of the other. -/
def rangesApart (table other : List (Nat × Nat)) : Bool :=
  table.all fun r => other.all fun s => Nat.blt r.2 s.1 || Nat.blt s.2 r.1

variable {table other : List (Nat × Nat)} {first last code : Nat}

/-- A code in a range that a table covers is in the table. -/
theorem inRanges_of_coversRange (h : coversRange table first last = true) (lower : first ≤ code)
    (upper : code ≤ last) : inRanges table code = true := by
  simp only [coversRange, List.any_eq_true, Bool.and_eq_true, Nat.ble_eq] at h
  obtain ⟨r, mem, below, above⟩ := h
  exact inRanges_iff.mpr ⟨r, mem, below.trans lower, upper.trans above⟩

/-- A code is not in two tables that lie apart. -/
theorem inRanges_eq_false_of_rangesApart (apart : rangesApart table other = true)
    (h : inRanges table code = true) : inRanges other code = false := by
  rw [Bool.eq_false_iff]
  intro h'
  obtain ⟨r, hr, lower, upper⟩ := inRanges_iff.mp h
  obtain ⟨s, hs, lower', upper'⟩ := inRanges_iff.mp h'
  simp only [rangesApart, List.all_eq_true, Bool.or_eq_true, Nat.blt_eq] at apart
  have := apart r hr s hs
  omega

/-! ## Marks -/

/-- The ranges of the characters at which a line is taken apart: the blanks and the delimiters of
literals. -/
def markRanges : List (Nat × Nat) :=
  blankRanges ++ [(0x22, 0x22), (0x27, 0x27), (0x3C, 0x3C), (0x3E, 0x3E)]

/-- Whether a line is taken apart at `c`. -/
def isMark (c : Char) : Bool := inRanges markRanges c.toNat

variable {c : Char}

/-- A blank is a mark. -/
theorem isMark_of_isBlank (h : isBlank c = true) : isMark c = true := by
  obtain ⟨r, mem, within⟩ := inRanges_iff.mp h
  exact inRanges_iff.mpr ⟨r, List.mem_append_left _ mem, within⟩

/-- The delimiters of literals are marks. -/
theorem isMark_delimiter (d : Delimiter) : isMark d.opening = true ∧ isMark d.closing = true := by
  cases d <;> decide

/-- What is no mark is not blank. -/
theorem isBlank_of_not_isMark (h : isMark c = false) : isBlank c = false := by
  by_contra blank
  rw [isMark_of_isBlank (by simpa using blank)] at h
  cases h

/-- What is no mark opens no literal. -/
theorem ofOpening?_of_not_isMark (h : isMark c = false) : Delimiter.ofOpening? c = none := by
  cases opened : Delimiter.ofOpening? c with
  | none => rfl
  | some d =>
    rw [Delimiter.opening_of_ofOpening? opened, (isMark_delimiter d).1] at h
    cases h

/-- What is no mark closes no literal. -/
theorem ne_closing_of_not_isMark (h : isMark c = false) (d : Delimiter) : c ≠ d.closing := by
  rintro rfl
  rw [(isMark_delimiter d).2] at h
  cases h

/-! ## Alphabetic characters -/

/-- What holds of the characters below U+0080 one by one holds of each of them. -/
theorem forall_below_0x80 {P : Char → Prop} (each : ∀ code < 0x80, P (Char.ofNat code)) (c : Char)
    (small : c.toNat < 0x80) : P c := by
  have here := each c.toNat small
  rwa [Char.ofNat_toNat] at here

/-- Below U+0080 the letters are those of the first two ranges. Other characters have no lower case,
and no character but a mark has a mark for its lower case. -/
theorem classes_below_0x80 : ∀ c : Char, c.toNat < 0x80 →
    c.isAlpha = inRanges (alphabeticRanges.take 2) c.toNat ∧
      (c.isAlpha = false → c.toLower = c) ∧
      (isMark c = false → isMark c.toLower = false) :=
  forall_below_0x80 (by decide +kernel)

/-- The ends of a run, moved to the lower case. -/
def CaseRun.lowered (run : CaseRun) : Nat × Nat :=
  ((run.first + run.shift).toNat, (run.last + run.shift).toNat)

/-- **What is decided of whole tables.** All but the first two ranges of alphabetic characters begin
above U+0080, and none of them meets a range of marks. No run of lower case leads to marks. And a
run lies within a range of alphabetic characters, or all its code points lie within some. -/
theorem tables_decided :
    (alphabeticRanges.drop 2).all (fun r => Nat.ble 0x80 r.1) = true ∧
      rangesApart alphabeticRanges markRanges = true ∧
      rangesApart (caseRuns.map CaseRun.lowered) markRanges = true ∧
      caseRuns.all (fun run =>
        coversRange alphabeticRanges run.first run.last ||
          (List.range (run.last + 1 - run.first)).all fun k =>
            !run.holds (run.first + k) || inRanges alphabeticRanges (run.first + k)) = true := by
  decide +kernel

/-- Alphabetic characters are those of the table, also below U+0080. -/
theorem isAlphabetic_eq (c : Char) : isAlphabetic c = inRanges alphabeticRanges c.toNat := by
  unfold isAlphabetic
  by_cases small : c.toNat < 0x80
  · have none_above : inRanges (alphabeticRanges.drop 2) c.toNat = false := by
      rw [Bool.eq_false_iff]
      intro h
      obtain ⟨r, mem, lower, -⟩ := inRanges_iff.mp h
      have := Nat.ble_eq.mp (List.all_eq_true.mp tables_decided.1 r mem)
      omega
    rw [if_pos small, (classes_below_0x80 c small).1]
    conv_rhs => rw [← List.take_append_drop 2 alphabeticRanges]
    unfold inRanges at none_above ⊢
    rw [List.any_append, none_above, Bool.or_false]
  · rw [if_neg small]

/-- No alphabetic character is a mark. -/
theorem isMark_of_isAlphabetic (h : isAlphabetic c = true) : isMark c = false := by
  rw [isAlphabetic_eq] at h
  exact inRanges_eq_false_of_rangesApart tables_decided.2.1 h

/-- No alphabetic character is blank. -/
theorem isBlank_of_isAlphabetic (h : isAlphabetic c = true) : isBlank c = false :=
  isBlank_of_not_isMark (isMark_of_isAlphabetic h)

/-- No blank is alphabetic. -/
theorem isAlphabetic_of_isBlank (h : isBlank c = true) : isAlphabetic c = false := by
  by_contra letter
  rw [isBlank_of_isAlphabetic (by simpa using letter)] at h
  cases h

/-- No alphabetic character opens a literal. -/
theorem ofOpening?_of_isAlphabetic (h : isAlphabetic c = true) : Delimiter.ofOpening? c = none :=
  ofOpening?_of_not_isMark (isMark_of_isAlphabetic h)

/-! ## Decimal digits -/

/-- No range of digits meets one of marks or of alphabetic characters. -/
theorem digits_decided : rangesApart decimalDigitRanges markRanges = true ∧
    rangesApart decimalDigitRanges alphabeticRanges = true := by
  decide +kernel

/-- No digit is a mark. -/
theorem isMark_of_isDecimalDigit (h : isDecimalDigit c = true) : isMark c = false :=
  inRanges_eq_false_of_rangesApart digits_decided.1 h

/-- No digit is alphabetic. -/
theorem isAlphabetic_of_isDecimalDigit (h : isDecimalDigit c = true) : isAlphabetic c = false := by
  rw [isAlphabetic_eq]
  exact inRanges_eq_false_of_rangesApart digits_decided.2 h

/-! ## Lower case -/

/-- A run holds alphabetic characters only. -/
theorem inRanges_of_holds {run : CaseRun} (mem : run ∈ caseRuns)
    (holds : run.holds code = true) : inRanges alphabeticRanges code = true := by
  have bounds := holds
  simp only [CaseRun.holds, Bool.and_eq_true, decide_eq_true_eq] at bounds
  obtain ⟨⟨lower, upper⟩, -⟩ := bounds
  have of_run := List.all_eq_true.mp tables_decided.2.2.2 run mem
  rcases (Bool.or_eq_true _ _).mp of_run with covered | each
  · exact inRanges_of_coversRange covered lower upper
  · have here := List.all_eq_true.mp each (code - run.first) (List.mem_range.mpr (by omega))
    rw [Nat.add_sub_cancel' lower, holds] at here
    simpa using here

/-- **Only alphabetic characters have a lower case other than themselves.** -/
theorem lowerChar_eq_self {c : Char} (h : isAlphabetic c = false) : lowerChar c = [c] := by
  unfold lowerChar
  by_cases small : c.toNat < 0x80
  · have letter : c.isAlpha = false := by
      rwa [isAlphabetic, if_pos small] at h
    rw [if_pos small, (classes_below_0x80 c small).2.1 letter]
  · rw [if_neg small]
    rw [isAlphabetic_eq] at h
    have not_dotted : c.toNat ≠ 0x130 := by
      intro dotted
      rw [dotted] at h
      exact absurd h (by decide)
    rw [if_neg not_dotted]
    cases found : caseRuns.find? (·.holds c.toNat) with
    | none => rfl
    | some run =>
      have holds : run.holds c.toNat = true := by simpa using List.find?_some found
      rw [inRanges_of_holds (List.mem_of_find?_eq_some found) holds] at h
      cases h

/-- No run leads to marks. -/
theorem isMark_ofNat_of_holds {run : CaseRun} (mem : run ∈ caseRuns)
    (holds : run.holds code = true) : isMark (Char.ofNat (code + run.shift).toNat) = false := by
  simp only [CaseRun.holds, Bool.and_eq_true, decide_eq_true_eq] at holds
  have within : inRanges (caseRuns.map CaseRun.lowered) (code + run.shift).toNat = true := by
    refine inRanges_iff.mpr ⟨run.lowered, List.mem_map_of_mem mem, ?_, ?_⟩
    · exact Int.toNat_le_toNat (by omega)
    · exact Int.toNat_le_toNat (by omega)
  by_cases valid : (code + run.shift).toNat.isValidChar
  · rw [isMark, Char.toNat_ofNat, if_pos valid]
    exact inRanges_eq_false_of_rangesApart tables_decided.2.2.1 within
  · rw [isMark, Char.toNat_ofNat, if_neg valid]
    decide

/-- A mark is its own lower case. -/
theorem lowerChar_of_isMark (h : isMark c = true) : lowerChar c = [c] := by
  apply lowerChar_eq_self
  by_contra letter
  rw [isMark_of_isAlphabetic (by simpa using letter)] at h
  cases h

/-- **A character that is no mark has none in its lower case.** -/
theorem isMark_of_mem_lowerChar (h : isMark c = false) : ∀ d ∈ lowerChar c, isMark d = false := by
  intro d mem
  unfold lowerChar at mem
  by_cases small : c.toNat < 0x80
  · rw [if_pos small, List.mem_singleton] at mem
    subst mem
    exact (classes_below_0x80 c small).2.2 h
  · rw [if_neg small] at mem
    by_cases dotted : c.toNat = 0x130
    · rw [if_pos dotted] at mem
      simp only [List.mem_cons, List.not_mem_nil, or_false] at mem
      rcases mem with rfl | rfl <;> decide
    · rw [if_neg dotted] at mem
      cases found : caseRuns.find? (·.holds c.toNat) with
      | none =>
        rw [found] at mem
        rwa [List.mem_singleton.mp mem]
      | some run =>
        have holds : run.holds c.toNat = true := by simpa using List.find?_some found
        rw [found] at mem
        rw [List.mem_singleton.mp mem]
        exact isMark_ofNat_of_holds (List.mem_of_find?_eq_some found) holds

/-- Every character has a lower case. -/
theorem lowerChar_ne_nil (c : Char) : lowerChar c ≠ [] := by
  unfold lowerChar
  split_ifs
  · simp
  · simp
  · split <;> simp

namespace Text

variable {t : Text} {afterCased : Bool}

/-- In a text, too, only alphabetic characters change. -/
theorem lowerAt_eq_self {c : Char} (h : isAlphabetic c = false) (rest : Text) :
    lowerAt afterCased c rest = [c] := by
  have not_sigma : c ≠ 'Σ' := by
    rintro rfl
    exact absurd h (by decide)
  rw [lowerAt, if_neg not_sigma, lowerChar_eq_self h]

/-- A mark in a text is its own lower case. -/
theorem lowerAt_of_isMark {c : Char} (h : isMark c = true) (rest : Text) :
    lowerAt afterCased c rest = [c] := by
  have not_sigma : c ≠ 'Σ' := by
    rintro rfl
    exact absurd h (by decide)
  rw [lowerAt, if_neg not_sigma, lowerChar_of_isMark h]

/-- No other character has a mark in its lower case. -/
theorem isMark_of_mem_lowerAt {c : Char} (h : isMark c = false) (rest : Text) :
    ∀ d ∈ lowerAt afterCased c rest, isMark d = false := by
  intro d mem
  unfold lowerAt at mem
  by_cases sigma : c = 'Σ'
  · rw [if_pos sigma, List.mem_singleton] at mem
    subst mem
    split <;> decide
  · rw [if_neg sigma] at mem
    exact isMark_of_mem_lowerChar h d mem

/-- In a text, too, every character has a lower case. -/
theorem lowerAt_ne_nil (afterCased : Bool) (c : Char) (rest : Text) :
    lowerAt afterCased c rest ≠ [] := by
  unfold lowerAt
  split
  · simp
  · exact lowerChar_ne_nil c

/-- Letters that come out of lowering come from letters. -/
theorem isAlphabetic_of_lowerFrom (h : ∀ d ∈ lowerFrom afterCased t, isAlphabetic d = true) :
    ∀ c ∈ t, isAlphabetic c = true := by
  induction t generalizing afterCased with
  | nil => simp
  | cons c t ih =>
    rw [lowerFrom, List.forall_mem_append] at h
    rw [List.forall_mem_cons]
    refine ⟨?_, ih h.2⟩
    by_contra other
    have here := h.1
    rw [lowerAt_eq_self (by simpa using other), List.forall_mem_singleton] at here
    exact other here

/-- A text is alphabetic if its lower case is. -/
theorem isAlphabetic_of_lower (h : ∀ d ∈ t.lower, isAlphabetic d = true) :
    ∀ c ∈ t, isAlphabetic c = true := isAlphabetic_of_lowerFrom h

end Text

end StepScript
