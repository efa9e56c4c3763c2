import Mathlib
import StepScript.Text.Basic

/-!
# Taking a text apart into lines, and putting lines together

**Pieces.** A text that is cut at some characters falls apart at each of them: what stands before
one and what stands behind it are cut on their own (`Text.pieces_append_cons`). All that follows is
read off this equation.

**Lines.** The lines of a text hold no line feed (`Text.lineFeed_not_mem_of_mem_lines`). Every text is
lines without line feeds, each of them ended by one, and a rest without line feeds behind them
(`Text.CutInto`, `Text.exists_cutInto`), and it is cut into these lines and the rest
(`Text.pieces_ended`). Of the rest the reader of lines makes a line only if it is not empty, and from
a line that is ended it takes a carriage return off (`Text.CutInto.lines_eq`); these are the two
places at which lines can be lost or changed when they are put together and read again.
-/

namespace StepScript.Text

variable {p : Char → Bool} {c : Char} {s t line rest : Text} {ended : List Text}

/-! ## Pieces -/

/-- A character in front of pieces goes into the first one. -/
theorem consHead_append {pieces : List Text} (some_piece : pieces ≠ []) (c : Char)
    (more : List Text) : consHead c (pieces ++ more) = consHead c pieces ++ more := by
  cases pieces with
  | nil => exact absurd rfl some_piece
  | cons first others => rfl

/-- A text without separators is one piece. -/
theorem pieces_eq_singleton (h : ∀ c ∈ t, p c = false) : pieces p t = [t] := by
  induction t with
  | nil => rfl
  | cons c t ih =>
    rw [List.forall_mem_cons] at h
    rw [pieces, h.1, ih h.2]
    rfl

/-- A separator takes a text apart. -/
theorem pieces_append_cons (hc : p c = true) (s t : Text) :
    pieces p (s ++ c :: t) = pieces p s ++ pieces p t := by
  induction s with
  | nil => simp [pieces, hc]
  | cons x s ih =>
    rw [List.cons_append, pieces, pieces, ih]
    by_cases hx : p x = true
    · simp [hx]
    · rw [if_neg hx, if_neg hx, consHead_append (pieces_ne_nil p s)]

/-! ## Lines -/

/-- A line is a piece of the text, perhaps without a carriage return at its end. -/
theorem exists_piece_of_mem_linesOfPieces {ps : List Text} (h : line ∈ linesOfPieces ps) :
    ∃ piece ∈ ps, ∀ c ∈ line, c ∈ piece := by
  fun_induction linesOfPieces with
  | case1 => simp at h
  | case2 => simp at h
  | case3 last =>
    obtain rfl := List.mem_singleton.mp h
    exact ⟨line, List.mem_cons_self, fun _ hc => hc⟩
  | case4 first others more ih =>
    rcases List.mem_cons.mp h with rfl | later
    · refine ⟨first, List.mem_cons_self, fun c hc => ?_⟩
      unfold dropReturn at hc
      split at hc
      · exact List.mem_of_mem_dropLast hc
      · exact hc
    · obtain ⟨piece, mem, chars⟩ := ih later
      exact ⟨piece, List.mem_cons_of_mem _ mem, chars⟩

/-- A line holds no line feed. -/
theorem lineFeed_not_mem_of_mem_lines (h : line ∈ t.lines) : '\n' ∉ line := by
  intro feed
  obtain ⟨piece, mem, chars⟩ := exists_piece_of_mem_linesOfPieces h
  simpa using not_sep_of_mem_pieces mem '\n' (chars _ feed)

/-- No character of a text without line feeds is one. -/
theorem not_lineFeed (h : '\n' ∉ t) : ∀ c ∈ t, (c == '\n') = false :=
  fun _ mem => beq_eq_false_iff_ne.mpr (ne_of_mem_of_not_mem mem h)

/-- A text without line feeds is a document of one line, unless it is empty. -/
theorem lines_eq_singleton (nonempty : t ≠ []) (h : '\n' ∉ t) : lines t = [t] := by
  rw [lines, pieces_eq_singleton (not_lineFeed h), linesOfPieces, if_neg nonempty]

/-- The first of several ended lines. -/
theorem flatMap_ended_cons (line : Text) (ended : List Text) (rest : Text) :
    (line :: ended).flatMap (· ++ ['\n']) ++ rest =
      line ++ '\n' :: (ended.flatMap (· ++ ['\n']) ++ rest) := by
  simp

/-- Lines that are ended by line feeds are cut apart again, and so is what stands behind them,
wherever else a text is cut. -/
theorem pieces_ended (cut : p '\n' = true) (plain : ∀ line ∈ ended, ∀ c ∈ line, p c = false)
    (last : ∀ c ∈ rest, p c = false) :
    pieces p (ended.flatMap (· ++ ['\n']) ++ rest) = ended ++ [rest] := by
  induction ended with
  | nil => exact pieces_eq_singleton last
  | cons line ended ih =>
    rw [List.forall_mem_cons] at plain
    rw [flatMap_ended_cons, pieces_append_cons cut, pieces_eq_singleton plain.1, ih plain.2]
    rfl

/-- All pieces but the last are ended lines; the last one is a line if it is not empty. -/
theorem linesOfPieces_append_singleton (ended : List Text) (rest : Text) :
    linesOfPieces (ended ++ [rest]) =
      ended.map dropReturn ++ if rest = [] then [] else [rest] := by
  induction ended with
  | nil => rfl
  | cons line ended ih =>
    have further : ended ++ [rest] ≠ [] := by simp
    rw [List.cons_append, linesOfPieces, ih, List.map_cons, List.cons_append]
    exact fun h => absurd h further

/-! ## Texts cut into ended lines -/

/-- A text is these lines, each of them ended by a line feed, and the rest behind them. -/
structure CutInto (t : Text) (ended : List Text) (rest : Text) : Prop where
  text_eq : t = ended.flatMap (· ++ ['\n']) ++ rest
  plain : ∀ line ∈ ended, '\n' ∉ line
  last : '\n' ∉ rest

/-- **Every text is cut into lines and a rest.** -/
theorem exists_cutInto (t : Text) : ∃ ended rest, t.CutInto ended rest := by
  induction t with
  | nil => exact ⟨[], [], rfl, by simp, by simp⟩
  | cons c t ih =>
    obtain ⟨ended, rest, rfl, plain, last⟩ := ih
    by_cases feed : c = '\n'
    · refine ⟨[] :: ended, rest, ?_, ?_, last⟩
      · simp [feed]
      · simpa using plain
    · have other : '\n' ≠ c := Ne.symm feed
      cases ended with
      | nil => exact ⟨[], c :: rest, rfl, plain, by simpa [other] using last⟩
      | cons line more =>
        rw [List.forall_mem_cons] at plain
        refine ⟨(c :: line) :: more, rest, ?_, ?_, last⟩
        · simp
        · rw [List.forall_mem_cons]
          exact ⟨by simpa [other] using plain.1, plain.2⟩

/-- Its lines are the ended lines without their carriage returns, and the rest if it is not empty. -/
theorem CutInto.lines_eq (cut : t.CutInto ended rest) :
    t.lines = ended.map dropReturn ++ if rest = [] then [] else [rest] := by
  have pieces_eq := pieces_ended (p := (· == '\n')) (by decide)
    (fun line mem => not_lineFeed (cut.plain line mem)) (not_lineFeed cut.last)
  rw [lines, cut.text_eq, pieces_eq, linesOfPieces_append_singleton]

/-! ## Carriage returns -/

/-- A carriage return at the end of a line is taken off. -/
theorem dropReturn_concat (line : Text) : dropReturn (line ++ ['\r']) = line := by
  simp [dropReturn]

/-- A carriage return is taken off behind all other characters. -/
theorem dropReturn_cons (nonempty : line ≠ []) (c : Char) :
    dropReturn (c :: line) = c :: dropReturn line := by
  cases line with
  | nil => exact absurd rfl nonempty
  | cons d more =>
    unfold dropReturn
    rw [List.getLast?_cons_cons, List.dropLast_cons_cons]
    split <;> rfl

/-- A line that ends with another character stays as it is, and no other one does. -/
theorem dropReturn_eq_self_iff : dropReturn line = line ↔ line.getLast? ≠ some '\r' := by
  unfold dropReturn
  by_cases h : line.getLast? = some '\r'
  · have nonempty : line ≠ [] := by
      rintro rfl
      cases h
    have some_char := List.length_pos_iff.mpr nonempty
    rw [if_pos h]
    apply iff_of_false
    · intro same
      have lengths := congrArg List.length same
      rw [List.length_dropLast] at lengths
      omega
    · exact fun other => other h
  · rw [if_neg h]
    exact iff_of_true rfl h

end StepScript.Text
