import Mathlib
import StepScript.Text.Measure

/-!
# Byte offsets, and the slices between them

**Boundaries.** A byte offset is a boundary of a text if it lies between two characters or at an end,
which is to say that it is the length in bytes of an initial part (`Text.isBoundary_iff`). A slice
between two offsets can only be cut if both are boundaries and they are in order (`Text.slice?`).

**Slices that can be cut.** The slice between two initial parts, of which one begins with the other, can
always be cut (`Text.slice?_eq_some`), and so can the part in the middle of a text in three parts
(`Text.slice?_of_split`). Whoever wants to show that a slice is not refused, therefore has
to say of which characters the text in front of each end consists.
-/

namespace StepScript

/-- Subtraction that does not stop at zero but fails. -/
def checkedSub (a b : Nat) : Option Nat := if b ≤ a then some (a - b) else none

/-- What was added can be subtracted again. -/
theorem checkedSub_add_right (a b : Nat) : checkedSub (a + b) b = some a := by
  rw [checkedSub, if_pos (Nat.le_add_left _ _), Nat.add_sub_cancel_right]

namespace Text

variable {t before front : Text}

/-! ## Bytes -/

/-- Bytes add up. -/
theorem byteLength_append (s t : Text) : byteLength (s ++ t) = byteLength s + byteLength t := by
  induction s with
  | nil => simp [byteLength]
  | cons c s ih => simp only [List.cons_append, byteLength, ih, Nat.add_assoc]

/-- A text that is not empty takes at least one byte. -/
theorem byteLength_pos {t : Text} (h : t ≠ []) : 0 < byteLength t := by
  cases t with
  | nil => exact absurd rfl h
  | cons c t =>
    have := c.utf8Size_pos
    rw [byteLength]
    omega

/-- Only an empty text takes no bytes. -/
theorem byteLength_eq_zero_iff : byteLength t = 0 ↔ t = [] := by
  refine ⟨fun none_taken => ?_, fun empty => by rw [empty, byteLength]⟩
  by_contra some_text
  exact (byteLength_pos some_text).ne' none_taken

/-- The part of a text before a byte offset between two characters. -/
def takeBytes : Nat → Text → Text
  | 0, _ => []
  | _, [] => []
  | offset + 1, c :: rest => c :: takeBytes (offset + 1 - c.utf8Size) rest

/-- The part of a text behind a byte offset between two characters. -/
def dropBytes : Nat → Text → Text
  | 0, t => t
  | _, [] => []
  | offset + 1, c :: rest => dropBytes (offset + 1 - c.utf8Size) rest

/-- As many bytes as a character and a text have are not none, and without those of the character
they are those of the text. -/
theorem exists_byteLength_cons (c : Char) (t : Text) :
    ∃ offset, byteLength (c :: t) = offset + 1 ∧ offset + 1 - c.utf8Size = byteLength t := by
  have positive := c.utf8Size_pos
  refine ⟨byteLength (c :: t) - 1, ?_, ?_⟩ <;> rw [byteLength] <;> omega

/-- Before the end of a first part stands that part. -/
theorem takeBytes_append (before after : Text) :
    takeBytes before.byteLength (before ++ after) = before := by
  induction before with
  | nil => rw [byteLength, takeBytes]
  | cons c before ih =>
    obtain ⟨offset, all, rest⟩ := exists_byteLength_cons c before
    rw [all, List.cons_append, takeBytes, rest, ih]

/-- Behind the end of a first part stands what follows it. -/
theorem dropBytes_append (before after : Text) :
    dropBytes before.byteLength (before ++ after) = after := by
  induction before with
  | nil => rw [byteLength, dropBytes, List.nil_append]
  | cons c before ih =>
    obtain ⟨offset, all, rest⟩ := exists_byteLength_cons c before
    rw [all, List.cons_append, dropBytes, rest, ih]

/-! ## Boundaries -/

/-- Whether a byte offset lies between two characters of a text, or at one of its ends. -/
def isBoundary : Text → Nat → Bool
  | _, 0 => true
  | [], _ + 1 => false
  | c :: rest, offset + 1 =>
    decide (c.utf8Size ≤ offset + 1) && isBoundary rest (offset + 1 - c.utf8Size)

/-- An initial part ends at a boundary. -/
theorem isBoundary_of_isPrefix (part : before <+: t) : t.isBoundary before.byteLength = true := by
  induction before generalizing t with
  | nil => cases t <;> rfl
  | cons c before ih =>
    obtain ⟨rest, rfl⟩ := part
    obtain ⟨offset, all, others⟩ := exists_byteLength_cons c before
    have fits : c.utf8Size ≤ offset + 1 := by
      rw [← all, byteLength]
      exact Nat.le_add_right _ _
    rw [all, List.cons_append, isBoundary, others, ih (List.prefix_append before rest),
      decide_eq_true fits]
    rfl

/-- **A boundary is where an initial part ends.** -/
theorem isBoundary_iff {offset : Nat} :
    t.isBoundary offset = true ↔ ∃ before : Text, before <+: t ∧ before.byteLength = offset := by
  constructor
  · intro boundary
    induction t generalizing offset with
    | nil =>
      cases offset with
      | zero => exact ⟨[], List.nil_prefix, rfl⟩
      | succ offset => cases boundary
    | cons c t ih =>
      cases offset with
      | zero => exact ⟨[], List.nil_prefix, rfl⟩
      | succ offset =>
        obtain ⟨fits, inside⟩ := Bool.and_eq_true_iff.mp boundary
        obtain ⟨before, part, ends⟩ := ih inside
        refine ⟨c :: before, (List.prefix_cons_inj c).mpr part, ?_⟩
        have := of_decide_eq_true fits
        rw [byteLength, ends]
        omega
  · rintro ⟨before, part, rfl⟩
    exact isBoundary_of_isPrefix part

/-- An initial part has no more bytes than the text. -/
theorem byteLength_le_of_isPrefix (part : before <+: t) : before.byteLength ≤ t.byteLength := by
  obtain ⟨rest, rfl⟩ := part
  rw [byteLength_append]
  exact Nat.le_add_right _ _

/-- Of two initial parts, the one with fewer characters has fewer bytes. -/
theorem byteLength_le_iff (part : before <+: t) (other : front <+: t) :
    front.byteLength ≤ before.byteLength ↔ front.length ≤ before.length := by
  constructor
  · intro le
    by_contra longer
    obtain ⟨rest, rfl⟩ := List.prefix_of_prefix_length_le part other (by omega)
    have some_left : rest ≠ [] := by
      rintro rfl
      simp at longer
    have := byteLength_pos some_left
    rw [byteLength_append] at le
    omega
  · intro le
    exact byteLength_le_of_isPrefix (List.prefix_of_prefix_length_le other part le)

/-! ## Slices -/

/-- The part of a text between two byte offsets; none if they are out of order, or one of them is not
a boundary. -/
def slice? (t : Text) (start stop : Nat) : Option Text :=
  if start ≤ stop ∧ t.isBoundary start = true ∧ t.isBoundary stop = true then
    some ((t.takeBytes stop).dropBytes start)
  else none

/-- **A slice between the ends of two initial parts can be cut.** -/
theorem slice?_eq_some (inner : front <+: before) (outer : before <+: t) :
    t.slice? front.byteLength before.byteLength = some (before.drop front.length) := by
  rw [slice?, if_pos ⟨byteLength_le_of_isPrefix inner, isBoundary_of_isPrefix (inner.trans outer),
    isBoundary_of_isPrefix outer⟩]
  obtain ⟨rest, rfl⟩ := outer
  obtain ⟨between, rfl⟩ := inner
  rw [takeBytes_append, dropBytes_append, List.drop_left]

/-- A part that stands between two others can be cut out. -/
theorem slice?_of_split {part after : Text} (split : front ++ part ++ after = t) :
    t.slice? front.byteLength (front.byteLength + part.byteLength) = some part := by
  rw [← byteLength_append, slice?_eq_some (List.prefix_append front part) ⟨after, split⟩,
    List.drop_left]

/-- The beginning of a text can be cut off at the end of an initial part. -/
theorem slice?_zero (part : before <+: t) : t.slice? 0 before.byteLength = some before :=
  slice?_eq_some List.nil_prefix part

/-- The rest of a text behind an initial part can be cut off. -/
theorem slice?_byteLength (part : before <+: t) :
    t.slice? before.byteLength t.byteLength = some (t.drop before.length) :=
  slice?_eq_some part (List.prefix_refl t)

/-- What follows a first part can be cut off behind it. -/
theorem slice?_append (before after : Text) :
    slice? (before ++ after) before.byteLength (before ++ after).byteLength = some after := by
  rw [slice?_byteLength (List.prefix_append before after), List.drop_left]

end Text

end StepScript
