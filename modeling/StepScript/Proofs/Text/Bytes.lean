import Mathlib
import StepScript.Proofs.Text.Slices

/-!
# UTF-8 keeps the order of texts

**Bytes.** A text is written as the bytes of its characters (`Text.bytes`), as many as
`Text.byteLength` says.

**Order.** Texts are compared character by character, and their bytes are compared byte by byte. Of
two different characters the one with the smaller number has the smaller bytes, whatever follows: if
it takes fewer bytes, its first one is smaller, and if both take as many, their bytes hold the digits
of the two numbers, highest first (`Text.utf8_lt_utf8`). So both ways of comparing texts agree
(`Text.bytes_lt_bytes_iff`).
-/

namespace StepScript.Text

/-- The bytes of a text. -/
def bytes (t : Text) : List UInt8 := t.flatMap String.utf8EncodeChar

/-- An empty text has no bytes. -/
@[simp] theorem bytes_nil : bytes [] = [] := rfl

/-- The bytes of a first character and of the others. -/
@[simp] theorem bytes_cons (c : Char) (t : Text) :
    bytes (c :: t) = String.utf8EncodeChar c ++ bytes t := List.flatMap_cons

variable {s t : Text}

/-- A text takes as many bytes as its length in bytes says. -/
theorem length_bytes (t : Text) : t.bytes.length = t.byteLength := by
  induction t with
  | nil => rfl
  | cons c t ih => rw [bytes_cons, List.length_append, String.length_utf8EncodeChar, ih, byteLength]

/-! ## Order -/

/-- Bytes are compared as numbers. -/
theorem ofNat_lt_ofNat_iff {m n : Nat} (m_lt : m < 256) (n_lt : n < 256) :
    UInt8.ofNat m < UInt8.ofNat n ↔ m < n := by
  rw [UInt8.lt_iff_toNat_lt, UInt8.toNat_ofNat_of_lt' m_lt, UInt8.toNat_ofNat_of_lt' n_lt]

/-- Different numbers are different bytes. -/
theorem ofNat_eq_ofNat_iff {m n : Nat} (m_lt : m < 256) (n_lt : n < 256) :
    UInt8.ofNat m = UInt8.ofNat n ↔ m = n := by
  rw [← UInt8.toNat_inj, UInt8.toNat_ofNat_of_lt' m_lt, UInt8.toNat_ofNat_of_lt' n_lt]

/-- **A smaller character has smaller bytes**, whatever follows. -/
theorem utf8_lt_utf8 {c d : Char} (lt : c < d) (s t : List UInt8) :
    String.utf8EncodeChar c ++ s < String.utf8EncodeChar d ++ t := by
  have numbers : c.val.toNat < d.val.toNat := lt
  have below : d.val.toNat < 0x110000 := by
    rcases d.valid with small | ⟨-, large⟩
    · omega
    · exact large
  -- The digits of a number to the base 64 come of one division after another.
  have two (n : Nat) : n / 4096 = n / 64 / 64 := by omega
  have three (n : Nat) : n / 262144 = n / 64 / 64 / 64 := by omega
  unfold String.utf8EncodeChar
  dsimp only
  generalize c.val.toNat = m at *
  generalize d.val.toNat = n at *
  simp only [two, three]
  split_ifs <;>
    simp (disch := omega) only [List.cons_append, List.nil_append, List.cons_lt_cons_iff,
      ofNat_lt_ofNat_iff, ofNat_eq_ofNat_iff] <;>
    omega

/-- Texts in order have their bytes in order. -/
theorem bytes_lt_bytes (lt : s < t) : s.bytes < t.bytes := by
  induction s generalizing t with
  | nil =>
    cases t with
    | nil => exact absurd lt (List.not_lt_nil _)
    | cons d t =>
      have some_bytes : bytes (d :: t) ≠ [] := by
        rw [← List.length_pos_iff, length_bytes]
        exact byteLength_pos (List.cons_ne_nil d t)
      obtain ⟨byte, rest, split⟩ := List.exists_cons_of_ne_nil some_bytes
      rw [bytes_nil, split]
      exact List.nil_lt_cons byte rest
  | cons c s ih =>
    cases t with
    | nil => exact absurd lt (List.not_lt_nil _)
    | cons d t =>
      rw [bytes_cons, bytes_cons]
      rcases List.cons_lt_cons_iff.mp lt with smaller | ⟨rfl, later⟩
      · exact utf8_lt_utf8 smaller _ _
      · exact List.append_left_lt (ih later)

/-- **Comparing bytes is comparing characters.** -/
theorem bytes_lt_bytes_iff : s.bytes < t.bytes ↔ s < t := by
  refine ⟨fun lt => ?_, bytes_lt_bytes⟩
  rcases lt_trichotomy s t with smaller | rfl | larger
  · exact smaller
  · exact absurd lt (List.lt_irrefl _)
  · exact absurd lt (List.lt_asymm (bytes_lt_bytes larger))

/-- Different texts have different bytes. -/
theorem bytes_injective : Function.Injective bytes := by
  intro s t same
  rcases lt_trichotomy s t with smaller | rfl | larger
  · exact absurd (same ▸ bytes_lt_bytes smaller) (List.lt_irrefl _)
  · rfl
  · exact absurd (same ▸ bytes_lt_bytes larger) (List.lt_irrefl _)

end StepScript.Text
