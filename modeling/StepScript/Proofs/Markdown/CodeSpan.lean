import Mathlib
import StepScript.Markdown
import StepScript.Proofs.Text.Runs

/-!
# What a reader makes of a code span

**The reader.** As CommonMark has it, a run of backticks opens a code span, and the next run of the
same length closes it (`Markdown.readSpan?`). Runs of other lengths between them belong to the content.
If the content begins and ends with a blank and is not blank throughout, one blank is taken off at both
ends; the character with the number zero is shown as the replacement character
(`Markdown.contentOf`).

**Fences.** A text between two fences is read back exactly if it has no run as long as the fences, and
then it is the content of the span (`Markdown.Fenced.readSpan?_iff`).

**The writer.** It looks for one backtick and then fences with two, so it is right about every text but
those with a run of exactly two. Only with the wide fence it writes blanks at the ends, so in a text
without backticks that has blanks of its own at both ends these are lost (`Markdown.Held`,
`Markdown.readSpan?_codeSpan_iff`).
-/

namespace StepScript.Markdown

variable {t raw text rest span : Text} {k n : ℕ} {c : Char}

/-- The backtick. -/
abbrev backtick : Char := '\x60'

/-- A row of backticks. -/
def ticks (n : ℕ) : Text := List.replicate n backtick

/-! ## The reader -/

/-- The text begins and ends with a blank, and there is more in it than blanks. -/
def Padded (t : Text) : Prop := t.head? = some ' ' ∧ t.getLast? = some ' ' ∧ ∃ c ∈ t, c ≠ ' '

/-- Whether a text begins and ends with a blank can be computed. -/
instance (t : Text) : Decidable (Padded t) :=
  decidable_of_iff (t.head? = some ' ' ∧ t.getLast? = some ' ' ∧ t.any (· != ' ') = true)
    (by simp [Padded])

/-- The text with a blank less at both ends, if it is padded. -/
def unpadded (t : Text) : Text := if Padded t then t.tail.dropLast else t

/-- The character as it is shown. -/
def shown (c : Char) : Char := if c = '\x00' then '\uFFFD' else c

/-- What is shown of the characters between the fences. -/
def contentOf (raw : Text) : Text := (unpadded raw).map shown

/-- The characters up to the first run of `n` backticks and what is behind that run, if `k` backticks
have been passed just before. -/
def close? (n : ℕ) : ℕ → Text → Option (Text × Text)
  | k, [] => if k = n then some ([], []) else none
  | k, c :: t =>
    if c = backtick then close? n (k + 1) t
    else if k = n then some ([], c :: t)
    else (close? n 0 t).map fun found => (ticks k ++ c :: found.1, found.2)

/-- The content of the code span at the start of a text and what is behind the span. -/
def readSpan? (t : Text) : Option (Text × Text) :=
  let n := (t.takeWhile (· = backtick)).length
  if n = 0 then none
  else (close? n 0 (t.drop n)).map fun found => (contentOf found.1, found.2)

/-! ## The search for the closing run -/

/-- Behind a run of backticks, any other character ends the span if the run is as long as its fence,
and belongs to it together with the run if not. -/
theorem close?_cons_of_ne (other : c ≠ backtick) (n k : ℕ) (t : Text) : close? n k (c :: t) =
    if k = n then some ([], c :: t)
    else (close? n 0 t).map fun found => (ticks k ++ c :: found.1, found.2) := by
  rw [close?, if_neg other]

/-- Backticks go on the run that has been read so far. -/
theorem close?_ticks_append (n k m : ℕ) (t : Text) :
    close? n k (ticks m ++ t) = close? n (k + m) t := by
  induction m generalizing k with
  | zero => rfl
  | succ m ih =>
    show close? n k (backtick :: (ticks m ++ t)) = close? n (k + (m + 1)) t
    rw [close?, if_pos rfl, ih, Nat.add_right_comm, Nat.add_assoc]

/-- One more backtick in a row. -/
theorem ticks_succ_append (k : ℕ) (t : Text) : ticks (k + 1) ++ t = ticks k ++ backtick :: t := by
  rw [ticks, List.replicate_succ', List.append_assoc, List.singleton_append, ticks]

/-- The run that has just been passed closes the span if it is of the right length. -/
theorem close?_self (behind : rest.head? ≠ some backtick) (n : ℕ) :
    close? n n rest = some ([], rest) := by
  cases rest with
  | nil => rw [close?, if_pos rfl]
  | cons c rest =>
    have other : c ≠ backtick := fun same => behind (congrArg some same)
    rw [close?_cons_of_ne other, if_pos rfl]

/-- **What is found has no run of the length of the fence**, and the fence is behind it. -/
theorem append_of_close? (found : close? n k t = some (raw, rest)) :
    ticks k ++ t = raw ++ (ticks n ++ rest) ∧ ¬ Text.HasRun backtick n raw := by
  have none_in_nil : ¬ Text.HasRun backtick n [] := fun run => List.not_mem_nil run.mem
  induction t generalizing k raw with
  | nil =>
    rw [close?] at found
    split_ifs at found with same
    obtain ⟨rfl, rfl⟩ := Prod.mk.inj (Option.some.inj found)
    exact ⟨same ▸ rfl, none_in_nil⟩
  | cons c t ih =>
    by_cases tick : c = backtick
    · rw [close?, if_pos tick] at found
      rw [tick, ← ticks_succ_append]
      exact ih found
    · rw [close?_cons_of_ne tick] at found
      split_ifs at found with same
      · obtain ⟨rfl, rfl⟩ := Prod.mk.inj (Option.some.inj found)
        exact ⟨same ▸ rfl, none_in_nil⟩
      · obtain ⟨⟨later, behind⟩, found_later, rest_eq⟩ := Option.map_eq_some_iff.mp found
        obtain ⟨rfl, rfl⟩ := Prod.mk.inj rest_eq
        obtain ⟨cut, none_later⟩ := ih found_later
        have passed : ¬ Text.HasRun backtick n (ticks k) := fun run =>
          same (Text.hasRun_replicate.mp run).2.symm
        refine ⟨?_, ?_⟩
        · have cut' : t = later ++ (ticks n ++ behind) := cut
          rw [List.append_assoc, List.cons_append, ← cut']
        · rw [Text.hasRun_append_cons tick]
          exact not_or.mpr ⟨passed, none_later⟩

/-- **A text without a run of the length of the fence is found**, with the fence behind it. -/
theorem close?_append (positive : 0 < n) (behind : rest.head? ≠ some backtick)
    (none_inside : ¬ Text.HasRun backtick n (ticks k ++ raw))
    (last : (ticks k ++ raw).getLast? ≠ some backtick) :
    close? n k (raw ++ (ticks n ++ rest)) = some (ticks k ++ raw, rest) := by
  induction raw generalizing k with
  | nil =>
    have at_start : k = 0 := by
      by_contra some_passed
      apply last
      rw [List.append_nil, ticks, List.getLast?_replicate, if_neg some_passed]
    rw [List.nil_append, close?_ticks_append, at_start, Nat.zero_add, close?_self behind]
    rfl
  | cons c raw ih =>
    by_cases tick : c = backtick
    · rw [tick, ← ticks_succ_append] at none_inside last
      rw [List.cons_append, close?, if_pos tick, ih none_inside last, tick, ticks_succ_append]
    · rw [Text.hasRun_append_cons tick, not_or] at none_inside
      have passed : k ≠ n := fun same =>
        none_inside.1 (Text.hasRun_replicate.mpr ⟨positive, same.symm⟩)
      have last_later : (ticks 0 ++ raw).getLast? ≠ some backtick := by
        intro at_end
        apply last
        have at_end' : raw.getLast? = some backtick := at_end
        rw [List.getLast?_append, List.getLast?_cons, at_end']
        rfl
      have later := ih (k := 0) none_inside.2 last_later
      rw [List.cons_append, close?_cons_of_ne tick, if_neg passed, later]
      rfl

/-! ## Texts between fences -/

/-- The span is the content between two runs of `n` backticks. -/
structure Fenced (n : ℕ) (raw span : Text) : Prop where
  positive : 0 < n
  span_eq : span = ticks n ++ (raw ++ ticks n)
  nonempty : raw ≠ []
  first : raw.head? ≠ some backtick
  last : raw.getLast? ≠ some backtick

/-- The opening fence is the whole run at the start. -/
theorem readSpan?_ticks_append (positive : 0 < n) (first : t.head? ≠ some backtick) :
    readSpan? (ticks n ++ t) = (close? n 0 t).map fun found => (contentOf found.1, found.2) := by
  have none_further : t.takeWhile (· = backtick) = [] := by
    cases t with
    | nil => rfl
    | cons c t =>
      have other : c ≠ backtick := fun same => first (congrArg some same)
      rw [List.takeWhile_cons_of_neg (by simpa using other)]
  have fence : ((ticks n ++ t).takeWhile (· = backtick)).length = n := by
    rw [List.takeWhile_append_of_pos, none_further, List.append_nil, ticks, List.length_replicate]
    intro c mem
    simpa using List.eq_of_mem_replicate mem
  have length : (ticks n).length = n := List.length_replicate
  rw [readSpan?, fence, if_neg positive.ne', List.drop_left' length]

/-- **A text between fences is read back exactly if it has no run as long as they are**, and it is then
the content of the span. -/
theorem Fenced.readSpan?_iff (fenced : Fenced n raw span) (behind : rest.head? ≠ some backtick) :
    readSpan? (span ++ rest) = some (text, rest) ↔
      ¬ Text.HasRun backtick n raw ∧ contentOf raw = text := by
  have first : (raw ++ (ticks n ++ rest)).head? ≠ some backtick := by
    rw [List.head?_append_of_ne_nil _ fenced.nonempty]
    exact fenced.first
  have open_eq := readSpan?_ticks_append fenced.positive first
  rw [fenced.span_eq, List.append_assoc, List.append_assoc, open_eq, Option.map_eq_some_iff]
  constructor
  · rintro ⟨⟨found, behind'⟩, closed, same⟩
    obtain ⟨rfl, rfl⟩ := Prod.mk.inj same
    obtain ⟨cut, none_inside⟩ := append_of_close? closed
    have found_eq : raw = found := List.append_cancel_right cut
    rw [found_eq]
    exact ⟨none_inside, rfl⟩
  · rintro ⟨none_inside, rfl⟩
    exact ⟨(raw, rest), close?_append (k := 0) fenced.positive behind none_inside fenced.last, rfl⟩

/-! ## The span that is written -/

/-- The length of the fence that is written around a text. -/
def fence (t : Text) : ℕ := if backtick ∈ t then 2 else 1

/-- What is written between the fences. -/
def body (t : Text) : Text := if backtick ∈ t then ' ' :: (t ++ [' ']) else t

/-- A backtick occurs in a text if it is one of its characters. -/
theorem occursIn_tick_iff : tick.occursIn t = true ↔ backtick ∈ t := by
  rw [Text.occursIn_iff]
  exact List.singleton_infix_iff backtick t

/-- A blank is no backtick. -/
theorem blank_ne_backtick : ' ' ≠ backtick := by decide

/-- A code span is its body between two runs of backticks of the same length. -/
theorem codeSpan_eq (t : Text) : codeSpan t = ticks (fence t) ++ (body t ++ ticks (fence t)) := by
  rw [codeSpan, fence, body]
  by_cases ticked : backtick ∈ t
  · rw [if_pos (occursIn_tick_iff.mpr ticked), if_pos ticked, if_pos ticked]
    simp [ticks]
  · rw [if_neg (mt occursIn_tick_iff.mp ticked), if_neg ticked, if_neg ticked, List.append_assoc]
    rfl

/-- **What is written is a text between fences**, if there is a text. -/
theorem fenced_codeSpan (nonempty : t ≠ []) : Fenced (fence t) (body t) (codeSpan t) where
  positive := by
    rw [fence]
    split_ifs <;> decide
  span_eq := codeSpan_eq t
  nonempty := by
    rw [body]
    split_ifs
    · exact List.cons_ne_nil _ _
    · exact nonempty
  first := by
    rw [body]
    split_ifs with ticked
    · exact fun at_start => blank_ne_backtick (Option.some.inj at_start)
    · exact fun at_start => ticked (List.mem_of_mem_head? at_start)
  last := by
    rw [body]
    split_ifs with ticked
    · rw [← List.cons_append, List.getLast?_concat]
      exact fun at_end => blank_ne_backtick (Option.some.inj at_end)
    · exact fun at_end => ticked (List.mem_of_getLast? at_end)

/-- The runs between the fences are those of the text. -/
theorem hasRun_body : Text.HasRun backtick n (body t) ↔ Text.HasRun backtick n t := by
  rw [body]
  split_ifs
  · rw [Text.hasRun_cons blank_ne_backtick, Text.hasRun_concat blank_ne_backtick]
  · rfl

/-- **The fence is as long as a run of the text exactly if the text has a run of two.** A text without
backticks has no runs. -/
theorem hasRun_fence_iff : Text.HasRun backtick (fence t) t ↔ Text.HasRun backtick 2 t := by
  rw [fence]
  split_ifs with ticked
  · rfl
  · exact iff_of_false (fun run => ticked run.mem) (fun run => ticked run.mem)

/-! ## What is shown of it -/

/-- Every character but the null character is shown as it is. -/
theorem shown_eq_self_iff : shown c = c ↔ c ≠ '\x00' := by
  unfold shown
  by_cases null : c = '\x00'
  · rw [if_pos null, null]
    decide
  · rw [if_neg null]
    exact iff_of_true rfl null

/-- A text without null characters is shown as it is. -/
theorem map_shown_eq_self_iff : t.map shown = t ↔ '\x00' ∉ t := by
  have pointwise : t.map shown = t.map id ↔ ∀ c ∈ t, c ≠ '\x00' := by
    rw [List.map_inj_left]
    exact forall₂_congr fun _ _ => shown_eq_self_iff
  rw [List.map_id] at pointwise
  rw [pointwise]
  exact ⟨fun all null => all _ null rfl, fun none c mem => ne_of_mem_of_not_mem mem none⟩

/-- A padded text is shown with fewer characters. -/
theorem length_unpadded_lt (padded : Padded t) : (unpadded t).length < t.length := by
  have some_char : 0 < t.length := List.length_pos_of_mem (List.mem_of_mem_head? padded.1)
  rw [unpadded, if_pos padded, List.length_dropLast, List.length_tail]
  omega

/-- The blanks of the wide fence are taken off again. -/
theorem unpadded_blanks (ticked : backtick ∈ t) : unpadded (' ' :: (t ++ [' '])) = t := by
  have padded : Padded (' ' :: (t ++ [' '])) := by
    refine ⟨rfl, ?_, backtick, by simp [ticked], blank_ne_backtick.symm⟩
    rw [← List.cons_append, List.getLast?_concat]
  rw [unpadded, if_pos padded, List.tail_cons, List.dropLast_concat]

/-- **What is shown is the text** if no character of it is the one with the number zero and, in a narrow
fence, there are no blanks at its ends that are taken for those of a wide one. -/
theorem contentOf_body_eq_iff :
    contentOf (body t) = t ↔ (backtick ∈ t ∨ ¬ Padded t) ∧ '\x00' ∉ t := by
  rw [body, contentOf]
  split_ifs with ticked
  · rw [unpadded_blanks ticked, map_shown_eq_self_iff, and_iff_right (Or.inl ticked)]
  · rw [or_iff_right ticked]
    by_cases padded : Padded t
    · have shorter := length_unpadded_lt padded
      refine iff_of_false (fun same => ?_) (fun kept => kept.1 padded)
      have lengths := congrArg List.length same
      rw [List.length_map] at lengths
      omega
    · rw [unpadded, if_neg padded, map_shown_eq_self_iff, and_iff_right padded]

/-- The texts that are read back from the spans that are written of them. -/
structure Held (t : Text) : Prop where
  nonempty : t ≠ []
  /-- No run of exactly two backticks, which would close the wide fence. -/
  no_pair : ¬ Text.HasRun backtick 2 t
  /-- Blanks at both ends only if there is a backtick, which makes the fence wide. -/
  blanks : backtick ∈ t ∨ ¬ Padded t
  no_null : '\x00' ∉ t

/-- What it takes for a text to be held, condition by condition. -/
theorem held_iff : Held t ↔
    t ≠ [] ∧ ¬ Text.HasRun backtick 2 t ∧ (backtick ∈ t ∨ ¬ Padded t) ∧ '\x00' ∉ t :=
  ⟨fun held => ⟨held.nonempty, held.no_pair, held.blanks, held.no_null⟩,
    fun ⟨nonempty, no_pair, blanks, no_null⟩ => ⟨nonempty, no_pair, blanks, no_null⟩⟩

/-- Whether a code span holds a text can be computed. -/
instance (t : Text) : Decidable (Held t) := decidable_of_iff' _ held_iff

/-- **The texts that are read back.** -/
theorem readSpan?_codeSpan_iff (behind : rest.head? ≠ some backtick) :
    readSpan? (codeSpan t ++ rest) = some (t, rest) ↔ Held t := by
  by_cases empty : t = []
  · refine iff_of_false (fun found => ?_) (fun held => held.nonempty empty)
    -- two backticks without a text between them are one run, and open a span
    have open_eq := readSpan?_ticks_append (n := 2) (by decide) behind
    have span : codeSpan t = ticks 2 := by
      rw [empty]
      rfl
    rw [span, open_eq, Option.map_eq_some_iff] at found
    obtain ⟨⟨raw, behind'⟩, closed, same⟩ := found
    obtain ⟨-, rfl⟩ := Prod.mk.inj same
    have lengths := congrArg List.length (append_of_close? closed).1
    simp [ticks] at lengths
    omega
  · rw [(fenced_codeSpan empty).readSpan?_iff behind, hasRun_body, hasRun_fence_iff,
      contentOf_body_eq_iff, held_iff, and_iff_right empty]

end StepScript.Markdown
