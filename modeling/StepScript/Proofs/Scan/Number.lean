import Mathlib
import StepScript.Proofs.Scan.Pattern
import StepScript.Scan.Number

/-!
# Numbers are read by longest match

**The form and its pattern.** A number is a row of parts (`Scan.IsNumber`), most of which may be
absent. As a pattern (`Scan.numberPattern`) it has choices that a reader may have to undo: digits that
were taken for the part before a point must be given back if no digit follows the point, and so must
an exponent mark without digits.

**What the reader measures.** The measuring functions make no choice. Part by part they give the first
way of the pattern (`Scan.first?_numberPattern`). In front of a part that may be absent the first way of
the part before it is the one taken; the sign and the digits are the two places at which the rest may
fail, and there the ways are listed.

**Why it is the longest.** Each part ends in front of a character with which the next part cannot
begin, unless it is as long as it can be. So the pattern is greedy
(`Scan.exists_greedy_numberPattern`), and what is measured is the longest initial part in the form of a
number (`Scan.isLongestNumber_take`).
-/

namespace StepScript.Scan

open Pattern

/-! ## The form of a number -/

/-- Nothing, or one of the marks. -/
def IsMark (marks : List Char) (t : Text) : Prop := t = [] ∨ ∃ c ∈ marks, t = [c]

/-- Digits, at least one. -/
def IsDigits (t : Text) : Prop := t ≠ [] ∧ ∀ c ∈ t, isDecimalDigit c = true

/-- Nothing, or digits, perhaps none, and a point. -/
def IsWhole (t : Text) : Prop :=
  t = [] ∨ ∃ digits, (∀ c ∈ digits, isDecimalDigit c = true) ∧ t = digits ++ ['.']

/-- Nothing, or an exponent mark, an optional sign, and digits. -/
def IsExponent (t : Text) : Prop :=
  t = [] ∨ ∃ mark ∈ ['e', 'E'], ∃ sign digits,
    IsMark ['-', '+'] sign ∧ IsDigits digits ∧ t = mark :: (sign ++ digits)

/-- The form of a number: an optional sign, digits with or without a point before the last run of
them, an optional exponent, an optional imaginary mark and an optional long mark. -/
inductive IsNumber : Text → Prop
  | parts {sign whole digits exponent imaginary long : Text} (h_sign : IsMark ['-', '+'] sign)
      (h_whole : IsWhole whole) (h_digits : IsDigits digits) (h_exponent : IsExponent exponent)
      (h_imaginary : IsMark ['j', 'J'] imaginary) (h_long : IsMark ['l', 'L'] long) :
      IsNumber (sign ++ (whole ++ digits ++ (exponent ++ (imaginary ++ long))))

/-! ## The form as a pattern -/

/-- An optional mark. -/
def markPattern (marks : List Char) : Pattern := .optional (.one fun c => c ∈ marks)

/-- Digits with a point behind them. -/
def pointPattern : Pattern := .seq (.many isDecimalDigit) (.one fun c => c = '.')

/-- Digits with or without a point before the last run of them. -/
def mantissaPattern : Pattern := .seq (.optional pointPattern) (.run isDecimalDigit)

/-- An exponent mark, an optional sign, and digits. -/
def scalePattern : Pattern :=
  .seq (.one fun c => c ∈ ['e', 'E']) (.seq (markPattern ['-', '+']) (.run isDecimalDigit))

/-- What may stand behind the digits of a number. -/
def suffixPattern : Pattern :=
  .seq (.optional scalePattern) (.seq (markPattern ['j', 'J']) (markPattern ['l', 'L']))

/-- A number. -/
def numberPattern : Pattern :=
  .seq (markPattern ['-', '+']) (.seq mantissaPattern suffixPattern)

variable {t : Text} {marks : List Char} {c : Char} {n : Nat}

/-- An optional mark, as a pattern. -/
theorem matches_markPattern : (markPattern marks).Matches t ↔ IsMark marks t := by
  simp [markPattern, Matches, IsMark]

/-- A run of digits, as a pattern. -/
theorem matches_run : (run isDecimalDigit).Matches t ↔ IsDigits t := by
  constructor
  · rintro ⟨_, s, rfl, ⟨c, here, rfl⟩, all⟩
    refine ⟨by simp, ?_⟩
    rw [List.singleton_append, List.forall_mem_cons]
    exact ⟨here, all⟩
  · rintro ⟨nonempty, all⟩
    cases t with
    | nil => exact absurd rfl nonempty
    | cons c t =>
      rw [List.forall_mem_cons] at all
      exact ⟨[c], t, rfl, ⟨c, all.1, rfl⟩, all.2⟩

/-- Optional digits that end in a point, as a pattern. -/
theorem matches_optional_pointPattern : (optional pointPattern).Matches t ↔ IsWhole t := by
  refine or_congr_right ?_
  constructor
  · rintro ⟨digits, _, rfl, all, c, point, rfl⟩
    exact ⟨digits, all, by rw [of_decide_eq_true point]⟩
  · rintro ⟨digits, all, rfl⟩
    exact ⟨digits, ['.'], rfl, all, '.', rfl, rfl⟩

/-- An optional exponent, as a pattern. -/
theorem matches_optional_scalePattern : (optional scalePattern).Matches t ↔ IsExponent t := by
  refine or_congr_right ?_
  constructor
  · rintro ⟨_, _, rfl, ⟨mark, mem, rfl⟩, sign, digits, rfl, h_sign, h_digits⟩
    exact ⟨mark, of_decide_eq_true mem, sign, digits, matches_markPattern.mp h_sign,
      matches_run.mp h_digits, rfl⟩
  · rintro ⟨mark, mem, sign, digits, h_sign, h_digits, rfl⟩
    exact ⟨[mark], sign ++ digits, rfl, ⟨mark, decide_eq_true mem, rfl⟩, sign, digits, rfl,
      matches_markPattern.mpr h_sign, matches_run.mpr h_digits⟩

/-- **The pattern stands for the numbers.** -/
theorem matches_numberPattern : numberPattern.Matches t ↔ IsNumber t := by
  constructor
  · rintro ⟨sign, _, rfl, h_sign, _, _, rfl, ⟨whole, digits, rfl, h_whole, h_digits⟩,
      exponent, _, rfl, h_exponent, imaginary, long, rfl, h_imaginary, h_long⟩
    exact .parts (matches_markPattern.mp h_sign) (matches_optional_pointPattern.mp h_whole)
      (matches_run.mp h_digits) (matches_optional_scalePattern.mp h_exponent)
      (matches_markPattern.mp h_imaginary) (matches_markPattern.mp h_long)
  · rintro ⟨h_sign, h_whole, h_digits, h_exponent, h_imaginary, h_long⟩
    exact ⟨_, _, rfl, matches_markPattern.mpr h_sign, _, _, rfl,
      ⟨_, _, rfl, matches_optional_pointPattern.mpr h_whole, matches_run.mpr h_digits⟩,
      _, _, rfl, matches_optional_scalePattern.mpr h_exponent,
      _, _, rfl, matches_markPattern.mpr h_imaginary, matches_markPattern.mpr h_long⟩

/-! ## Which parts can follow each other -/

/-- The digits of all scripts. -/
def decimalDigits : Set Char := {c | isDecimalDigit c = true}

/-- A mark that is neither a digit nor one of the marks that may be taken in its place. -/
theorem disjoint_digits_union (taken marks : List Char)
    (h : (marks.any fun c => isDecimalDigit c || taken.contains c) = false) :
    Disjoint (decimalDigits ∪ {c | c ∈ taken}) {c | c ∈ marks} := by
  rw [Set.disjoint_right]
  intro c mem
  have neither := List.any_eq_false.mp h c mem
  simpa [decimalDigits] using neither

/-- No sign is a digit. -/
theorem disjoint_signs_digits : Disjoint {c | c ∈ ['-', '+']} decimalDigits :=
  ((disjoint_digits_union [] _ (by decide)).mono_left Set.subset_union_left).symm

/-- An optional mark begins with one of its marks, if it takes anything. -/
theorem begins_markPattern (marks : List Char) : (markPattern marks).Begins {c | c ∈ marks} :=
  begins_one.optional.mono fun _ mem => of_decide_eq_true mem

/-- Where a mark is there it may be left out, and what follows then begins with it. -/
theorem greedy_markPattern (marks : List Char) : (markPattern marks).Greedy {c | c ∈ marks} := by
  refine (greedy_one.optional begins_one (by simp [Matches])).mono ?_
  rw [Set.empty_union]
  exact fun _ mem => of_decide_eq_true mem

/-- A run of digits has a digit. -/
theorem not_matches_run_nil : ¬(run isDecimalDigit).Matches [] :=
  fun h => (matches_run.mp h).1 rfl

/-- The digits of a number begin with a digit or the point. -/
theorem begins_mantissaPattern : mantissaPattern.Begins (decimalDigits ∪ {c | c ∈ ['.']}) := by
  have point : pointPattern.Begins (decimalDigits ∪ {c | c ∈ ['.']}) := by
    refine (begins_many.seq begins_one).mono (Set.union_subset_union_right _ fun c mem => ?_)
    exact List.mem_singleton.mpr (of_decide_eq_true mem)
  exact (point.optional.seq begins_run).mono (Set.union_subset le_rfl Set.subset_union_left)

/-- A mantissa has a digit. -/
theorem not_matches_mantissaPattern_nil : ¬mantissaPattern.Matches [] := by
  rintro ⟨r, s, parts, -, digits⟩
  rw [(List.append_eq_nil_iff.mp parts.symm).2] at digits
  exact not_matches_run_nil digits

/-- Digits with a point behind them are found in one way, if at all. -/
theorem ways_pointPattern (t : Text) : pointPattern.ways t =
    if (t.drop (digitsLength t)).head? = some '.' then [digitsLength t + 1] else [] := by
  unfold digitsLength
  rw [pointPattern, ways, ways]
  induction t with
  | nil => rfl
  | cons c t ih =>
    rw [runWays]
    by_cases digit : isDecimalDigit c = true
    · have no_point : c ≠ '.' := by
        rintro rfl
        exact absurd digit (by decide)
      have later : (runWays isDecimalDigit t).flatMap (fun n =>
            ((one fun c => c = '.').ways ((c :: t).drop (n + 1))).map (n + 1 + ·)) =
          ((runWays isDecimalDigit t).flatMap fun n =>
            ((one fun c => c = '.').ways (t.drop n)).map (n + ·)).map (· + 1) := by
        rw [List.map_flatMap]
        refine List.flatMap_congr fun n _ => ?_
        rw [List.map_map, List.drop_succ_cons]
        exact List.map_congr_left fun m _ => Nat.add_right_comm n 1 m
      rw [if_pos digit, List.takeWhile_cons_of_pos digit, List.length_cons, List.drop_succ_cons,
        List.flatMap_append, List.flatMap_map, later, ih]
      split <;> simp [ways, no_point]
    · rw [if_neg digit, List.takeWhile_cons_of_neg digit]
      by_cases point : c = '.' <;> simp [ways, point]

/-- A run of digits goes on up to its end. -/
theorem exists_digit_of_lt (less : n < digitsLength t) :
    ∃ c ∈ (t.drop n).head?, c ∈ decimalDigits := by
  have begins : t.takeWhile isDecimalDigit <+: t := List.takeWhile_prefix _
  refine ⟨(t.takeWhile isDecimalDigit)[n], ?_, List.mem_takeWhile_imp (List.getElem_mem less)⟩
  rw [List.head?_drop, Option.mem_def, begins.getElem less]
  exact List.getElem?_eq_getElem _

/-- No way to take digits goes beyond the run. -/
theorem le_digitsLength (mem : n ∈ (run isDecimalDigit).ways t) : n ≤ digitsLength t := by
  obtain ⟨s, ⟨rest, rfl⟩, rfl, found⟩ := mem_ways_iff.mp mem
  rw [digitsLength, List.takeWhile_append_of_pos (matches_run.mp found).2, List.length_append]
  exact Nat.le_add_right _ _

/-- **The digits of a number** stop early only in front of a digit or the point. Digits with a point
behind them go further than digits without, since a run of digits ends at the point. -/
theorem greedy_mantissaPattern : mantissaPattern.Greedy (decimalDigits ∪ {c | c ∈ ['.']}) := by
  refine greedy_seq_of (greedy_run.mono Set.subset_union_left) fun t => ?_
  rw [ways, ways_pointPattern]
  split
  · rename_i point
    rw [List.singleton_append, List.pairwise_cons]
    refine ⟨?_, List.pairwise_singleton _ _⟩
    intro m stop x _ y mem
    obtain rfl := List.mem_singleton.mp stop
    have within : y ≤ digitsLength t := le_digitsLength mem
    rw [Nat.zero_add]
    refine ⟨by omega, ?_⟩
    rcases within.lt_or_eq with less | rfl
    · obtain ⟨c, next, digit⟩ := exists_digit_of_lt less
      exact ⟨c, next, .inl digit⟩
    · exact ⟨'.', point, .inr List.mem_cons_self⟩
  · exact List.pairwise_singleton _ _

/-- An exponent begins with its mark. -/
theorem begins_scalePattern : scalePattern.Begins {c | c ∈ ['e', 'E']} :=
  (begins_one.seq_left (by simp [Matches]) _).mono fun _ mem => of_decide_eq_true mem

/-- The marks behind a number begin with one of them. -/
theorem begins_marks : (seq (markPattern ['j', 'J']) (markPattern ['l', 'L'])).Begins
    {c | c ∈ ['j', 'J', 'l', 'L']} := by
  refine ((begins_markPattern _).seq (begins_markPattern _)).mono fun c mem => ?_
  simpa [or_assoc] using mem

/-- What may stand behind the digits begins with a mark of its own. -/
theorem begins_suffixPattern :
    suffixPattern.Begins {c | c ∈ ['e', 'E', 'j', 'J', 'l', 'L']} := by
  refine (begins_scalePattern.optional.seq begins_marks).mono fun c mem => ?_
  simpa [or_assoc] using mem

/-- **An exponent** is left out in front of its mark only, and stops early in front of a digit. -/
theorem greedy_optional_scalePattern :
    (optional scalePattern).Greedy (decimalDigits ∪ {c | c ∈ ['-', '+', 'e', 'E']}) := by
  have power : (seq (markPattern ['-', '+']) (run isDecimalDigit)).Greedy _ :=
    (greedy_markPattern _).seq greedy_run begins_run disjoint_signs_digits
  have scale : scalePattern.Greedy _ := (greedy_one (p := fun c => c ∈ ['e', 'E'])).seq power
    ((begins_markPattern _).seq begins_run) (Set.empty_disjoint _)
  have solid : ¬scalePattern.Matches [] := by
    rintro ⟨r, s, parts, ⟨c, -, rfl⟩, -⟩
    simp at parts
  refine (scale.optional begins_scalePattern solid).mono ?_
  intro c mem
  simp [decimalDigits] at mem ⊢
  tauto

/-- **The pattern of numbers is greedy.** -/
theorem exists_greedy_numberPattern : ∃ more, numberPattern.Greedy more := by
  have long : (seq (markPattern ['j', 'J']) (markPattern ['l', 'L'])).Greedy _ :=
    (greedy_markPattern _).seq (greedy_markPattern _) (begins_markPattern _)
      ((disjoint_digits_union ['j', 'J'] _ (by decide)).mono_left Set.subset_union_right)
  have suffix : suffixPattern.Greedy _ :=
    greedy_optional_scalePattern.seq long begins_marks (disjoint_digits_union _ _ (by decide))
  have unsigned : (seq mantissaPattern suffixPattern).Greedy _ :=
    greedy_mantissaPattern.seq suffix begins_suffixPattern (disjoint_digits_union _ _ (by decide))
  exact ⟨_, (greedy_markPattern _).seq unsigned
    (begins_mantissaPattern.seq_left not_matches_mantissaPattern_nil _)
    (disjoint_digits_union _ _ (by decide)).symm⟩

/-! ## What the reader measures is the first way -/

/-- An optional mark takes what it is measured to take. -/
theorem first?_markPattern (marks : List Char) (t : Text) :
    (markPattern marks).first? t = some (markLength marks t) := by
  rw [markPattern, first?_optional, markLength.eq_def]
  cases t with
  | nil => rfl
  | cons c t => by_cases here : c ∈ marks <;> simp [first?, ways, here]

/-- A run of digits takes all digits, and fails if there are none. -/
theorem first?_digits (t : Text) : (run isDecimalDigit).first? t =
    if digitsLength t = 0 then none else some (digitsLength t) := first?_run _ t

/-- **An optional mark** in front of a pattern that cannot begin with it. If the reader leaves the mark
out, the rest of the pattern is not found. -/
theorem first?_seq_markPattern {b : Pattern} {heads : Set Char} (begins : b.Begins heads)
    (solid : ¬b.Matches []) (apart : Disjoint {c | c ∈ marks} heads) (t : Text) :
    (seq (markPattern marks) b).first? t =
      (b.first? (t.drop (markLength marks t))).map (markLength marks t + ·) := by
  rw [first?_seq]
  cases t with
  | nil => simp [markPattern, ways, markLength]
  | cons c t =>
    by_cases here : c ∈ marks
    · have not_without : b.first? (c :: t) = none := by
        rw [first?, begins.ways_eq_nil solid (Set.disjoint_left.mp apart here)]
        rfl
      have both : (markPattern marks).ways (c :: t) = [1, 0] := by simp [markPattern, ways, here]
      have one_mark : markLength marks (c :: t) = 1 := if_pos here
      rw [both, one_mark, List.findSome?_cons, List.findSome?_singleton, List.drop_zero, not_without]
      cases b.first? ((c :: t).drop 1) <;> rfl
    · simp [markPattern, ways, markLength, here]

/-- Digits that a point follows count only if digits follow the point. -/
theorem mantissaLength_of_point {after : Text} (left : t.drop (digitsLength t) = '.' :: after) :
    mantissaLength t = if digitsLength after = 0 then digitsLength t
      else digitsLength t + 1 + digitsLength after := by
  unfold mantissaLength
  dsimp only
  rw [left]
  rfl

/-- Where no point follows the digits, the mantissa is these digits. -/
theorem mantissaLength_of_no_point (left : (t.drop (digitsLength t)).head? ≠ some '.') :
    mantissaLength t = digitsLength t := by
  unfold mantissaLength
  dsimp only
  split
  · rename_i after point
    rw [point] at left
    exact absurd rfl left
  · rfl

/-- **The digits of a number are the first way to take them.** If no digit follows the point, the
reader goes back to the digits in front of it. -/
theorem first?_mantissaPattern (t : Text) : mantissaPattern.first? t =
    if mantissaLength t = 0 then none else some (mantissaLength t) := by
  rw [mantissaPattern, first?_seq, ways, ways_pointPattern]
  by_cases point : (t.drop (digitsLength t)).head? = some '.'
  · obtain ⟨after, left⟩ := List.head?_eq_some_iff.mp point
    have behind : t.drop (digitsLength t + 1) = after := by
      rw [← List.drop_drop, left, List.drop_one, List.tail_cons]
    rw [if_pos point, mantissaLength_of_point left, List.singleton_append, List.findSome?_cons,
      behind, first?_digits]
    by_cases none_behind : digitsLength after = 0
    · simp [none_behind, first?_digits]
    · simp [none_behind]
  · rw [if_neg point, mantissaLength_of_no_point point]
    simp [first?_digits]

/-- **An exponent is the first way to take it.** If no digit follows, the reader goes back to the place
in front of its mark. -/
theorem first?_scalePattern (t : Text) :
    (optional scalePattern).first? t = some (exponentLength t) := by
  rw [first?_optional, scalePattern, first?_seq]
  unfold exponentLength
  dsimp only
  cases t with
  | nil => rfl
  | cons c t =>
    by_cases mark : c ∈ ['e', 'E']
    · have one_mark : markLength ['e', 'E'] (c :: t) = 1 := if_pos mark
      have one_way : (one fun c => c ∈ ['e', 'E']).ways (c :: t) = [1] :=
        if_pos (decide_eq_true mark)
      rw [one_mark, one_way, List.findSome?_singleton, first?_seq_markPattern begins_run
        not_matches_run_nil disjoint_signs_digits, List.drop_drop, first?_digits]
      split <;> simp_all [Nat.add_assoc]
    · have no_mark : markLength ['e', 'E'] (c :: t) = 0 := if_neg mark
      have no_way : (one fun c => c ∈ ['e', 'E']).ways (c :: t) = [] :=
        if_neg (mt of_decide_eq_true mark)
      rw [no_mark, no_way, if_pos (.inl rfl)]
      rfl

/-- What may stand behind the digits may be absent. -/
theorem matches_marks_nil : (seq (markPattern ['j', 'J']) (markPattern ['l', 'L'])).Matches [] :=
  ⟨[], [], rfl, .inl rfl, .inl rfl⟩

/-- The marks behind a number may be missing. -/
theorem matches_suffixPattern_nil : suffixPattern.Matches [] :=
  ⟨[], [], rfl, .inl rfl, matches_marks_nil⟩

/-- The first way to take what stands behind the digits. -/
theorem first?_suffixPattern (t : Text) : suffixPattern.first? t =
    let scaled := exponentLength t
    let imaginary := scaled + markLength ['j', 'J'] (t.drop scaled)
    some (imaginary + markLength ['l', 'L'] (t.drop imaginary)) := by
  have optional_mark : (markPattern ['l', 'L']).Matches [] := .inl rfl
  rw [suffixPattern, first?_seq_of_matches_nil matches_marks_nil, first?_scalePattern,
    Option.bind_some, first?_seq_of_matches_nil optional_mark, first?_markPattern,
    Option.bind_some, first?_markPattern]
  simp [Nat.add_assoc]

/-- **What the reader measures is the first way of the pattern.** -/
theorem first?_numberPattern (t : Text) : numberPattern.first? t =
    if numberLength t = 0 then none else some (numberLength t) := by
  rw [numberPattern, first?_seq_markPattern
    (begins_mantissaPattern.seq_left not_matches_mantissaPattern_nil _)
    (not_matches_seq_nil not_matches_mantissaPattern_nil _)
    (disjoint_digits_union _ _ (by decide)).symm,
    first?_seq_of_matches_nil matches_suffixPattern_nil, first?_mantissaPattern]
  unfold numberLength
  dsimp only
  split
  · rfl
  · rename_i found
    rw [Option.bind_some, first?_suffixPattern]
    simp [List.drop_drop, Nat.add_assoc, found]

/-! ## The longest number -/

/-- The number `s` is the longest with which the text begins. -/
structure IsLongestNumber (t s : Text) : Prop where
  begins : s <+: t
  number : IsNumber s
  longest : ∀ r, r <+: t → IsNumber r → r.length ≤ s.length

/-- Something is measured exactly if the text begins with a number. -/
theorem numberLength_pos_iff : 0 < numberLength t ↔ ∃ s, s <+: t ∧ IsNumber s := by
  have first := first?_numberPattern t
  constructor
  · intro positive
    rw [if_neg positive.ne'] at first
    obtain ⟨s, begins, -, matched⟩ := mem_ways_iff.mp (List.mem_of_head? first)
    exact ⟨s, begins, matches_numberPattern.mp matched⟩
  · rintro ⟨s, begins, number⟩
    have mem : s.length ∈ numberPattern.ways t :=
      mem_ways_iff.mpr ⟨s, begins, rfl, matches_numberPattern.mpr number⟩
    by_contra none_found
    rw [if_pos (by omega)] at first
    rw [List.head?_eq_none_iff.mp first] at mem
    cases mem

/-- **What is measured is the longest number** with which the text begins. -/
theorem isLongestNumber_take (positive : 0 < numberLength t) :
    IsLongestNumber t (t.take (numberLength t)) := by
  obtain ⟨more, greedy⟩ := exists_greedy_numberPattern
  have first : numberPattern.first? t = some (numberLength t) := by
    rw [first?_numberPattern, if_neg positive.ne']
  obtain ⟨⟨s, begins, length, matched⟩, greatest⟩ := greedy.first?_eq_some_iff.mp first
  have taken : t.take (numberLength t) = s := by
    rw [← length]
    exact (List.prefix_iff_eq_take.mp begins).symm
  rw [taken]
  refine ⟨begins, matches_numberPattern.mp matched, fun r initial number => ?_⟩
  rw [length]
  exact greatest ⟨r, initial, rfl, matches_numberPattern.mpr number⟩

/-! ## Nothing is left incomplete -/

/-- What a character of a number asks of the next one: a digit behind a point, a digit or a point behind
a sign, a digit or a sign behind an exponent mark. -/
def Completed (c : Char) (rest : Text) : Prop :=
  (c = '.' → ∃ d ∈ rest.head?, d ∈ decimalDigits) ∧
    (c ∈ ['-', '+'] → ∃ d ∈ rest.head?, d ∈ decimalDigits ∨ d = '.') ∧
    (c ∈ ['e', 'E'] → ∃ d ∈ rest.head?, d ∈ decimalDigits ∨ d ∈ ['-', '+'])

/-- Every character of the text has behind it what it asks for. -/
def AllCompleted (t : Text) : Prop := ∀ c rest, c :: rest <:+ t → Completed c rest

/-- There is nothing to complete in an empty text. -/
theorem allCompleted_nil : AllCompleted [] := by
  intro c rest suffix
  cases List.suffix_nil.mp suffix

/-- Every mark of a text is completed if the first one is, and every one behind it. -/
theorem allCompleted_cons {rest : Text} :
    AllCompleted (c :: rest) ↔ Completed c rest ∧ AllCompleted rest := by
  constructor
  · intro all
    exact ⟨all c rest (List.suffix_refl _),
      fun d more suffix => all d more (suffix.trans (List.suffix_cons c rest))⟩
  · rintro ⟨here, later⟩ d more suffix
    rcases List.suffix_cons_iff.mp suffix with same | within
    · cases same
      exact here
    · exact later d more within

/-- A character that asks for nothing. -/
theorem completed_of_plain {rest : Text} (plain : c ∉ ['.', '-', '+', 'e', 'E']) :
    Completed c rest := by
  simp only [List.mem_cons, List.not_mem_nil, or_false, not_or] at plain
  refine ⟨fun h => absurd h plain.1, fun h => ?_, fun h => ?_⟩
  · simp [plain] at h
  · simp [plain] at h

variable {s rest : Text}

/-- Digits ask for nothing. -/
theorem allCompleted_digits (all : ∀ c ∈ s, c ∈ decimalDigits) (later : AllCompleted rest) :
    AllCompleted (s ++ rest) := by
  induction s with
  | nil => exact later
  | cons c s ih =>
    rw [List.forall_mem_cons] at all
    have plain : c ∉ ['.', '-', '+', 'e', 'E'] := by
      intro mem
      have apart := disjoint_digits_union [] ['.', '-', '+', 'e', 'E'] (by decide)
      exact Set.disjoint_left.mp apart (.inl all.1) mem
    exact allCompleted_cons.mpr ⟨completed_of_plain plain, ih all.2⟩

/-- An optional mark has behind it what it asks for if every one of the marks has. -/
theorem allCompleted_mark (mark : IsMark marks s) (here : ∀ c ∈ marks, Completed c rest)
    (later : AllCompleted rest) : AllCompleted (s ++ rest) := by
  rcases mark with rfl | ⟨c, mem, rfl⟩
  · exact later
  · exact allCompleted_cons.mpr ⟨here c mem, later⟩

/-- What a sign asks for. -/
theorem completed_sign (first : ∃ d ∈ rest.head?, d ∈ decimalDigits ∨ d = '.') :
    ∀ c ∈ ['-', '+'], Completed c rest := by
  intro c sign
  have cases_of : c = '-' ∨ c = '+' := by simpa using sign
  rcases cases_of with rfl | rfl <;> simpa [Completed] using first

/-- What an exponent mark asks for. -/
theorem completed_exponent (first : ∃ d ∈ rest.head?, d ∈ decimalDigits ∨ d ∈ ['-', '+']) :
    ∀ c ∈ ['e', 'E'], Completed c rest := by
  intro c mark
  have cases_of : c = 'e' ∨ c = 'E' := by simpa using mark
  rcases cases_of with rfl | rfl <;> simpa [Completed] using first

/-- Marks behind a number ask for nothing. -/
theorem completed_suffix : ∀ c ∈ ['j', 'J', 'l', 'L'], Completed c rest := by
  intro c mark
  refine completed_of_plain fun mem => ?_
  have apart := disjoint_digits_union ['.', '-', '+', 'e', 'E'] ['j', 'J', 'l', 'L'] (by decide)
  exact Set.disjoint_left.mp apart (.inr mem) mark

/-- Digits begin with a digit. -/
theorem exists_digit_of_isDigits (digits : IsDigits s) (rest : Text) :
    ∃ d ∈ (s ++ rest).head?, d ∈ decimalDigits := by
  obtain ⟨nonempty, all⟩ := digits
  cases s with
  | nil => exact absurd rfl nonempty
  | cons d s => exact ⟨d, rfl, all d List.mem_cons_self⟩

/-- **In a number nothing is left incomplete.** -/
theorem IsNumber.allCompleted (number : IsNumber t) : AllCompleted t := by
  obtain ⟨h_sign, h_whole, h_digits, h_exponent, h_imaginary, h_long⟩ := number
  rename_i sign whole digits exponent imaginary long
  have suffix : AllCompleted (imaginary ++ long) := by
    have last : AllCompleted (long ++ []) := allCompleted_mark h_long
      (fun c mem => completed_suffix c (List.mem_append_right ['j', 'J'] mem)) allCompleted_nil
    rw [List.append_nil] at last
    exact allCompleted_mark h_imaginary
      (fun c mem => completed_suffix c (List.mem_append_left ['l', 'L'] mem)) last
  have scaled : AllCompleted (exponent ++ (imaginary ++ long)) := by
    rcases h_exponent with rfl | ⟨mark, mem, power, digits, h_power, h_digits, rfl⟩
    · exact suffix
    · obtain ⟨d, first, digit⟩ := exists_digit_of_isDigits h_digits (imaginary ++ long)
      rw [List.cons_append, List.append_assoc, allCompleted_cons]
      constructor
      · refine completed_exponent ?_ mark mem
        rcases h_power with rfl | ⟨c, power, rfl⟩
        · exact ⟨d, first, .inl digit⟩
        · exact ⟨c, rfl, .inr power⟩
      · exact allCompleted_mark h_power (completed_sign ⟨d, first, .inl digit⟩)
          (allCompleted_digits h_digits.2 suffix)
  obtain ⟨d, first, digit⟩ := exists_digit_of_isDigits h_digits (exponent ++ (imaginary ++ long))
  have unsigned := allCompleted_digits h_digits.2 scaled
  rw [List.append_assoc]
  rcases h_whole with rfl | ⟨front, all, rfl⟩
  · exact allCompleted_mark h_sign (completed_sign ⟨d, first, .inl digit⟩) unsigned
  · have pointed : AllCompleted ('.' :: (digits ++ (exponent ++ (imaginary ++ long)))) := by
      refine allCompleted_cons.mpr ⟨?_, unsigned⟩
      exact ⟨fun _ => ⟨d, first, digit⟩, fun sign => absurd sign (by decide),
        fun mark => absurd mark (by decide)⟩
    rw [List.append_assoc, List.singleton_append]
    refine allCompleted_mark h_sign (completed_sign ?_) (allCompleted_digits all pointed)
    cases front with
    | nil => exact ⟨'.', rfl, .inr rfl⟩
    | cons c front => exact ⟨c, rfl, .inl (all c List.mem_cons_self)⟩

end StepScript.Scan
