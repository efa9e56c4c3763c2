import Mathlib
import StepScript.Proofs.LanguageServer.SemanticTokens

/-!
# Positions and their byte offsets

Going through a line, bytes and sixteen-bit units are counted side by side, and the byte offset of a
position is the first one at which there are units enough (`Text.byteOffset`). It is the end of the part
before the position (`Text.byteOffset_eq`), and that is the shortest initial part with units enough
(`Text.beforeUnit_isPrefix_of_le`), or the whole line if it is shorter.
-/

namespace StepScript.Text

variable {t before : Text}

/-- An initial part has no more units than the text. -/
theorem unitLength_le_of_isPrefix (part : before <+: t) : before.unitLength ≤ t.unitLength := by
  obtain ⟨rest, rfl⟩ := part
  rw [unitLength_append]
  exact Nat.le_add_right _ _

/-- The byte offset at which a position is reached, from the byte offset and the number of units that
were counted before. -/
def byteOffsetFrom (offset units position : Nat) : Text → Nat
  | [] => offset
  | c :: rest =>
    if position ≤ units then offset
    else byteOffsetFrom (offset + c.utf8Size) (units + unitSize c) position rest

/-- The byte offset of a position that counts sixteen-bit units. -/
def byteOffset (t : Text) (position : Nat) : Nat := byteOffsetFrom 0 0 position t

/-- The count ends where the part before the position ends. -/
theorem byteOffsetFrom_eq (offset units position : Nat) (t : Text) :
    byteOffsetFrom offset units position t =
      offset + (t.beforeUnit (position - units)).byteLength := by
  induction t generalizing offset units with
  | nil =>
    cases position - units <;> rfl
  | cons c t ih =>
    rw [byteOffsetFrom]
    split_ifs with reached
    · rw [Nat.sub_eq_zero_of_le reached, beforeUnit, byteLength, Nat.add_zero]
    · obtain ⟨ahead, some_ahead⟩ : ∃ ahead, position - units = ahead + 1 :=
        ⟨position - units - 1, by omega⟩
      have next : position - (units + unitSize c) = ahead + 1 - unitSize c := by omega
      rw [ih, next, some_ahead, beforeUnit, byteLength, Nat.add_assoc]

/-- **The byte offset of a position** is where the part before it ends. -/
theorem byteOffset_eq (t : Text) (position : Nat) :
    t.byteOffset position = (t.beforeUnit position).byteLength := by
  rw [byteOffset, byteOffsetFrom_eq, Nat.zero_add, Nat.sub_zero]

-- A position in the middle of a character of two units is where that character ends.
example : Text.byteOffset "a🦀b".toList 2 = 5 := by decide

/-- What is before a position begins the line. -/
theorem beforeUnit_isPrefix (position : Nat) (t : Text) : t.beforeUnit position <+: t := by
  induction t generalizing position with
  | nil => cases position <;> exact List.nil_prefix
  | cons c t ih =>
    cases position with
    | zero => exact List.nil_prefix
    | succ position => exact (List.prefix_cons_inj c).mpr (ih _)

/-- What is before a position has units enough, unless the line ends before it. -/
theorem le_unitLength_beforeUnit (position : Nat) (t : Text) :
    position ≤ (t.beforeUnit position).unitLength ∨
      t.beforeUnit position = t ∧ t.unitLength < position := by
  induction t generalizing position with
  | nil =>
    cases position with
    | zero => exact .inl le_rfl
    | succ position => exact .inr ⟨rfl, Nat.succ_pos position⟩
  | cons c t ih =>
    cases position with
    | zero => exact .inl (Nat.zero_le _)
    | succ position =>
      rw [beforeUnit, unitLength, unitLength]
      rcases ih (position + 1 - unitSize c) with enough | ⟨whole, short⟩
      · exact .inl (by omega)
      · exact .inr ⟨by rw [whole], by omega⟩

/-- **What is before a position begins every initial part with units enough.** -/
theorem beforeUnit_isPrefix_of_le {position : Nat} (part : before <+: t)
    (enough : position ≤ before.unitLength) : t.beforeUnit position <+: before := by
  induction t generalizing position before with
  | nil =>
    cases position <;> exact List.nil_prefix
  | cons c t ih =>
    cases position with
    | zero => exact List.nil_prefix
    | succ position =>
      cases before with
      | nil => exact absurd enough (Nat.not_succ_le_zero position)
      | cons d before =>
        obtain ⟨rfl, inner⟩ := List.cons_prefix_cons.mp part
        refine (List.prefix_cons_inj d).mpr (ih inner ?_)
        rw [unitLength] at enough
        omega

/-- **The position at the end of an initial part leads back to it.** -/
theorem beforeUnit_unitLength (before rest : Text) :
    beforeUnit before.unitLength (before ++ rest) = before := by
  induction before with
  | nil => rw [unitLength, beforeUnit]
  | cons c before ih =>
    obtain ⟨position, all⟩ : ∃ position, unitLength (c :: before) = position + 1 :=
      ⟨unitLength (c :: before) - 1, by have := unitLength_pos (List.cons_ne_nil c before); omega⟩
    have inside : position + 1 - unitSize c = unitLength before := by
      rw [← all, unitLength, Nat.add_sub_cancel_left]
    rw [all, List.cons_append, beforeUnit, inside, ih]

end StepScript.Text
