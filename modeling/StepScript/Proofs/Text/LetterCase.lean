import Mathlib
import StepScript.Grammar
import StepScript.Proofs.Character.Classes

/-!
# Texts that differ in the case of letters only

**Small letters.** Two texts that agree once their letters A to Z are made small (`Text.SameButCase`)
are read alike as soon as a text and the same text with small letters are. So nothing here is about
two texts: each lemma says that making letters small leaves alone what the readers of scripts look
at, which are the classes of characters, the lower case and the number of bytes.

**Twenty-six cases.** What concerns a single character is decided once, of the letters A to Z one by one
(`toLower_keeps`, `outward_toLower`), since every other character is its own small letter. Letters with
accents and those of other scripts are among these: two texts that differ in the case of such a letter
are two texts.
-/

namespace StepScript

/-! ## Characters -/

/-- **What holds of the letters A to Z holds of all characters**, since the others are their own small
letters. -/
theorem toLower_keeps {α : Type} (f : Char → α)
    (capitals : ∀ i < 26, f (Char.ofNat (0x41 + i)).toLower = f (Char.ofNat (0x41 + i))) (c : Char) :
    f c.toLower = f c := by
  by_cases h : c.val ≥ 'A'.val ∧ c.val ≤ 'Z'.val
  · have lower : 0x41 ≤ c.toNat := UInt32.le_iff_toNat_le.mp h.1
    have upper : c.toNat ≤ 0x5A := UInt32.le_iff_toNat_le.mp h.2
    have here := capitals (c.toNat - 0x41) (by omega)
    rwa [Nat.add_sub_cancel' lower, Char.ofNat_toNat] at here
  · have same : c.toLower = c := dif_neg h
    rw [same]

/-- What is looked at in a character when a script is read. -/
structure Outward where
  blank : Bool
  alphabetic : Bool
  decimalDigit : Bool
  space : Bool
  cased : Bool
  lowered : Text
  bytes : Nat
  opened : Option Delimiter
  deriving DecidableEq

/-- Its classes, its lower case, its bytes and the literal it opens. -/
def outward (c : Char) : Outward :=
  ⟨isBlank c, isAlphabetic c, isDecimalDigit c, Scan.isSpace c, isCased c, lowerChar c, c.utf8Size,
    Delimiter.ofOpening? c⟩

section Classes

variable (c : Char)

/-- All of it is the same of a letter and its small letter. -/
theorem outward_toLower : outward c.toLower = outward c :=
  toLower_keeps outward (by decide +kernel) c

/-- Whether a character is blank does not depend on case. -/
@[simp] theorem isBlank_toLower : isBlank c.toLower = isBlank c :=
  congrArg Outward.blank (outward_toLower c)

/-- Whether a character is alphabetic does not depend on case. -/
@[simp] theorem isAlphabetic_toLower : isAlphabetic c.toLower = isAlphabetic c :=
  congrArg Outward.alphabetic (outward_toLower c)

/-- Whether a character is a digit does not depend on case. -/
@[simp] theorem isDecimalDigit_toLower : isDecimalDigit c.toLower = isDecimalDigit c :=
  congrArg Outward.decimalDigit (outward_toLower c)

/-- Whether a character is white space does not depend on case. -/
@[simp] theorem isSpace_toLower : Scan.isSpace c.toLower = Scan.isSpace c :=
  congrArg Outward.space (outward_toLower c)

/-- A letter has case in either case. -/
@[simp] theorem isCased_toLower : isCased c.toLower = isCased c :=
  congrArg Outward.cased (outward_toLower c)

/-- A letter has the same lower case in either case. -/
@[simp] theorem lowerChar_toLower : lowerChar c.toLower = lowerChar c :=
  congrArg Outward.lowered (outward_toLower c)

/-- A letter has as many bytes in either case. -/
@[simp] theorem utf8Size_toLower : c.toLower.utf8Size = c.utf8Size :=
  congrArg Outward.bytes (outward_toLower c)

/-- A delimiter has no case. -/
@[simp] theorem ofOpening?_toLower : Delimiter.ofOpening? c.toLower = Delimiter.ofOpening? c :=
  congrArg Outward.opened (outward_toLower c)

/-- The ranges of the letters A to Z, capital and small. -/
def letterRanges : List (Nat × Nat) := [(0x41, 0x5A), (0x61, 0x7A)]

/-- No letter is case-ignorable, which is decided of the ranges, not of the letters one by one. -/
@[simp] theorem isCaseIgnorable_toLower : isCaseIgnorable c.toLower = isCaseIgnorable c := by
  have apart : rangesApart letterRanges caseIgnorableRanges = true := by
    decide +kernel
  have letters : ∀ i < 26, inRanges letterRanges (Char.ofNat (0x41 + i)).toNat ∧
      inRanges letterRanges (Char.ofNat (0x41 + i)).toLower.toNat := by
    decide +kernel
  have not_ignorable : ∀ x : Char, inRanges letterRanges x.toNat = true →
      isCaseIgnorable x = false := fun _ => inRanges_eq_false_of_rangesApart apart
  apply toLower_keeps
  intro i small
  rw [not_ignorable _ (letters i small).1, not_ignorable _ (letters i small).2]

/-- A character that is no letter is the small letter of itself only. -/
theorem toLower_eq_iff {x : Char} (mark : x.isAlpha = false) : c.toLower = x ↔ c = x := by
  have letters : ∀ i < 26, (Char.ofNat (0x41 + i)).isAlpha = true ∧
      (Char.ofNat (0x41 + i)).toLower.isAlpha = true := by decide
  have other : ∀ y : Char, y.isAlpha = true → y ≠ x := by
    rintro y letter rfl
    rw [mark] at letter
    cases letter
  have same := toLower_keeps (fun c => decide (c = x)) (fun i small => by
    simp [other _ (letters i small).1, other _ (letters i small).2]) c
  exact decide_eq_decide.mp same

end Classes

namespace Text

variable {s t : Text} {p : Char → Bool}

/-- Two texts differ in the case of the letters A to Z only. -/
def SameButCase (s t : Text) : Prop := s.map Char.toLower = t.map Char.toLower

/-- Whether two texts differ in case only can be computed. -/
instance (s t : Text) : Decidable (SameButCase s t) := inferInstanceAs (Decidable (_ = _))

/-! ## Texts with small letters -/

/-- The run of characters of a class at the start of a text with small letters. -/
theorem takeWhile_small (same : ∀ c : Char, p c.toLower = p c) (t : Text) :
    (t.map Char.toLower).takeWhile p = (t.takeWhile p).map Char.toLower := by
  rw [List.takeWhile_map]
  exact congrArg (fun q => (t.takeWhile q).map Char.toLower) (funext same)

/-- What is behind it. -/
theorem dropWhile_small (same : ∀ c : Char, p c.toLower = p c) (t : Text) :
    (t.map Char.toLower).dropWhile p = (t.dropWhile p).map Char.toLower := by
  rw [List.dropWhile_map]
  exact congrArg (fun q => (t.dropWhile q).map Char.toLower) (funext same)

/-- A mark stands in it if it stands in the text. -/
theorem mem_small_iff {x : Char} (mark : x.isAlpha = false) : x ∈ t.map Char.toLower ↔ x ∈ t := by
  simp [toLower_eq_iff _ mark]

/-- A text with small letters takes as many bytes. -/
@[simp] theorem byteLength_small (t : Text) : byteLength (t.map Char.toLower) = byteLength t := by
  induction t with
  | nil => rfl
  | cons c t ih => simp [byteLength, ih]

/-- It begins with a cased character if the text does. -/
@[simp] theorem startsCased_small (t : Text) :
    startsCased (t.map Char.toLower) = startsCased t := by
  unfold startsCased
  induction t with
  | nil => rfl
  | cons c t ih =>
    rw [List.map_cons, List.find?_cons, List.find?_cons, isCaseIgnorable_toLower]
    cases isCaseIgnorable c with
    | true => exact ih
    | false => simp

/-- **It has the same lower case**, also where that depends on what stands around a letter. -/
theorem lowerFrom_small (afterCased : Bool) (t : Text) :
    lowerFrom afterCased (t.map Char.toLower) = lowerFrom afterCased t := by
  induction t generalizing afterCased with
  | nil => rfl
  | cons c t ih =>
    have here : lowerAt afterCased c.toLower (t.map Char.toLower) = lowerAt afterCased c t := by
      simp [lowerAt, toLower_eq_iff]
    rw [List.map_cons, lowerFrom, lowerFrom, here, ih, isCaseIgnorable_toLower, isCased_toLower]

/-- Lowering does not see the case of letters. -/
@[simp] theorem lower_small (t : Text) : lower (t.map Char.toLower) = t.lower :=
  lowerFrom_small false t

end Text

end StepScript
