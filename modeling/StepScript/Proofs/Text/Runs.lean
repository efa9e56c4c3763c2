import Mathlib
import StepScript.Proofs.Text.Lines

/-!
# Runs of a character

**Runs.** A text has a run of `n` times the character `x` if `x` stands there `n` times in a row with
nothing but other characters, or an end of the text, on either side (`Text.HasRun`). Such a run has its
whole length: three in a row are a run of three, and no run of two.

**Runs are pieces.** Cut at all other characters, a text falls apart into its runs (`Text.hasRun_iff`),
because a piece is what stands between two separators (`Text.mem_pieces_iff`). So whether there is a run
can be decided, and the runs of a text are those on both sides of any other character
(`Text.hasRun_append_cons`).
-/

namespace StepScript.Text

variable {p : Char → Bool} {x c : Char} {s t piece first : Text} {others : List Text} {k n : ℕ}

/-! ## Where a piece stands -/

/-- The first piece begins the text, and reaches to a separator or to the end. -/
theorem exists_of_pieces_eq_cons (h : pieces p t = first :: others) :
    ∃ after, t = first ++ after ∧ ∀ c ∈ after.head?, p c = true := by
  induction t generalizing first others with
  | nil =>
    obtain ⟨rfl, -⟩ := List.cons_eq_cons.mp h
    exact ⟨[], rfl, by simp⟩
  | cons c t ih =>
    rw [pieces] at h
    split_ifs at h with sep
    · obtain ⟨rfl, -⟩ := List.cons_eq_cons.mp h
      exact ⟨c :: t, rfl, by simpa using sep⟩
    · obtain ⟨head, more, found⟩ := List.exists_cons_of_ne_nil (pieces_ne_nil p t)
      rw [found, consHead] at h
      obtain ⟨rfl, -⟩ := List.cons_eq_cons.mp h
      obtain ⟨after, rfl, ends⟩ := ih found
      exact ⟨after, rfl, ends⟩

/-- Every other piece stands behind a separator, and reaches to the next one or to the end. -/
theorem exists_of_mem_others (h : pieces p t = first :: others) (mem : piece ∈ others) :
    ∃ before c after, t = before ++ c :: (piece ++ after) ∧ p c = true ∧
      ∀ d ∈ after.head?, p d = true := by
  induction t generalizing first others with
  | nil =>
    obtain ⟨-, rfl⟩ := List.cons_eq_cons.mp h
    cases mem
  | cons c t ih =>
    obtain ⟨head, more, found⟩ := List.exists_cons_of_ne_nil (pieces_ne_nil p t)
    rw [pieces, found] at h
    split_ifs at h with sep
    · obtain ⟨-, rfl⟩ := List.cons_eq_cons.mp h
      rcases List.mem_cons.mp mem with rfl | later
      · obtain ⟨after, rfl, ends⟩ := exists_of_pieces_eq_cons found
        exact ⟨[], c, after, rfl, sep, ends⟩
      · obtain ⟨before, d, after, rfl, sep_d, ends⟩ := ih found later
        exact ⟨c :: before, d, after, rfl, sep_d, ends⟩
    · obtain ⟨-, rfl⟩ := List.cons_eq_cons.mp h
      obtain ⟨before, d, after, rfl, sep_d, ends⟩ := ih found mem
      exact ⟨c :: before, d, after, rfl, sep_d, ends⟩

/-- A part without separators that begins the text and reaches to a separator or to the end is a
piece. -/
theorem mem_pieces_append (plain : ∀ c ∈ piece, p c = false) (ends : ∀ c ∈ t.head?, p c = true) :
    piece ∈ pieces p (piece ++ t) := by
  cases t with
  | nil => simp [pieces_eq_singleton plain]
  | cons c t =>
    rw [pieces_append_cons (ends c rfl), pieces_eq_singleton plain]
    exact List.mem_cons_self

/-- **A piece is a part without separators that stands between two of them**, or at an end of the
text. -/
theorem mem_pieces_iff : piece ∈ pieces p t ↔ ∃ before after, t = before ++ (piece ++ after) ∧
    (∀ c ∈ piece, p c = false) ∧ (∀ c ∈ before.getLast?, p c = true) ∧
      ∀ c ∈ after.head?, p c = true := by
  constructor
  · intro mem
    have plain := not_sep_of_mem_pieces mem
    obtain ⟨first, others, found⟩ := List.exists_cons_of_ne_nil (pieces_ne_nil p t)
    rw [found] at mem
    rcases List.mem_cons.mp mem with rfl | later
    · obtain ⟨after, rfl, right⟩ := exists_of_pieces_eq_cons found
      exact ⟨[], after, rfl, plain, by simp, right⟩
    · obtain ⟨before, c, after, rfl, sep, right⟩ := exists_of_mem_others found later
      exact ⟨before ++ [c], after, by simp, plain, by simpa using sep, right⟩
  · rintro ⟨before, after, rfl, plain, left, right⟩
    have behind := mem_pieces_append plain right
    rcases List.eq_nil_or_concat' before with rfl | ⟨start, c, rfl⟩
    · exact behind
    · have sep : p c = true := left c (by simp)
      rw [List.append_assoc, List.singleton_append, pieces_append_cons sep]
      exact List.mem_append_right _ behind

/-! ## Runs -/

/-- The character `x` stands `n` times in a row in the text, with no further `x` on either side. -/
def HasRun (x : Char) (n : ℕ) (t : Text) : Prop :=
  0 < n ∧ ∃ before after, t = before ++ (List.replicate n x ++ after) ∧
    before.getLast? ≠ some x ∧ after.head? ≠ some x

/-- **The runs are the pieces between the other characters.** -/
theorem hasRun_iff : HasRun x n t ↔ 0 < n ∧ List.replicate n x ∈ pieces (· != x) t := by
  rw [HasRun, mem_pieces_iff]
  refine and_congr_right fun _ => exists_congr fun before => exists_congr fun after => ?_
  have plain : ∀ c ∈ List.replicate n x, (c != x) = false := by simp [List.mem_replicate]
  have other : ∀ o : Option Char, o ≠ some x ↔ ∀ c ∈ o, (c != x) = true := by
    intro o
    cases o <;> simp
  rw [other, other]
  exact and_congr_right fun _ => (and_iff_right plain).symm

/-- Whether a text has a run of a given length can be computed. -/
instance (x : Char) (n : ℕ) (t : Text) : Decidable (HasRun x n t) := decidable_of_iff' _ hasRun_iff

/-- **The runs of a text are those on both sides of any other character.** -/
theorem hasRun_append_cons (other : c ≠ x) :
    HasRun x n (s ++ c :: t) ↔ HasRun x n s ∨ HasRun x n t := by
  have pieces_eq := pieces_append_cons (p := (· != x)) (bne_iff_ne.mpr other) s t
  rw [hasRun_iff, hasRun_iff, hasRun_iff, pieces_eq, List.mem_append, and_or_left]

/-- The same character throughout is one run. -/
theorem hasRun_replicate : HasRun x n (List.replicate k x) ↔ 0 < n ∧ n = k := by
  have plain : ∀ c ∈ List.replicate k x, (c != x) = false := by simp [List.mem_replicate]
  rw [hasRun_iff, pieces_eq_singleton plain, List.mem_singleton]
  refine and_congr_right fun _ => ⟨fun same => ?_, fun same => same ▸ rfl⟩
  simpa using congrArg List.length same

/-- A run of `x` needs an `x`. -/
theorem HasRun.mem (run : HasRun x n t) : x ∈ t := by
  obtain ⟨positive, before, after, rfl, -, -⟩ := run
  simp [positive.ne']

/-- Other characters at the ends make no difference. -/
theorem hasRun_cons (other : c ≠ x) : HasRun x n (c :: t) ↔ HasRun x n t := by
  have none_before : ¬ HasRun x n [] := fun run => List.not_mem_nil run.mem
  rw [← List.nil_append (c :: t), hasRun_append_cons other, or_iff_right none_before]

/-- Another character at the end makes no run. -/
theorem hasRun_concat (other : c ≠ x) : HasRun x n (t ++ [c]) ↔ HasRun x n t := by
  have none_behind : ¬ HasRun x n [] := fun run => List.not_mem_nil run.mem
  rw [hasRun_append_cons other, or_iff_left none_behind]

end StepScript.Text
