import Mathlib
import StepScript.Text.Basic

/-!
# Patterns, and the order in which a reader tries them

**Two readings of a pattern.** A pattern stands for certain texts (`Pattern.Matches`). A reader that
looks for it at the start of a text tries one way after the other: one more character of a run before
one less, an optional part before its absence, and if the rest of the pattern does not follow, it goes
back to its last choice. `Pattern.ways` lists the ways in this order, each by the number of characters
that it takes, and the reader takes the first (`Pattern.first?`). The ways are the initial parts for
which the pattern stands (`Pattern.mem_ways_iff`), so the readings differ only in which of these is
taken.

**When the first way is the longest.** The first way of an optional `a` followed by an optional `ab`
takes one character of the text `ab`, and the second one takes two. This cannot happen in a pattern
that is `Pattern.Greedy`: its ways are listed from the longest to the shortest, and each but the first
stops in front of a character with which it could have gone on. Parts can be put in a row as long as
none of them begins with a character with which the part before it could have gone on
(`Pattern.Greedy.seq`). Then the first way is the longest (`Pattern.Greedy.first?_eq_some_iff`).
-/

namespace StepScript.Scan

/-- A pattern for the start of a text. -/
inductive Pattern where
  /-- One character of a class. -/
  | one (p : Char → Bool)
  /-- Characters of a class, perhaps none. -/
  | many (p : Char → Bool)
  /-- One pattern after the other. -/
  | seq (a b : Pattern)
  /-- A pattern, or nothing. -/
  | optional (a : Pattern)

namespace Pattern

/-- A run of at least one character of a class. -/
def run (p : Char → Bool) : Pattern := seq (one p) (many p)

/-- The texts for which a pattern stands. -/
def Matches : Pattern → Text → Prop
  | one p, t => ∃ c, p c = true ∧ t = [c]
  | many p, t => ∀ c ∈ t, p c = true
  | seq a b, t => ∃ r s, t = r ++ s ∧ a.Matches r ∧ b.Matches s
  | optional a, t => t = [] ∨ a.Matches t

/-- The ways to take characters of a class, more of them first. -/
def runWays (p : Char → Bool) : Text → List Nat
  | [] => [0]
  | c :: rest => if p c then (runWays p rest).map (· + 1) ++ [0] else [0]

/-- The ways to find a pattern at the start of a text, in the order in which they are tried. -/
def ways : Pattern → Text → List Nat
  | one _, [] => []
  | one p, c :: _ => if p c then [1] else []
  | many p, t => runWays p t
  | seq a b, t => (a.ways t).flatMap fun n => (b.ways (t.drop n)).map (n + ·)
  | optional a, t => a.ways t ++ [0]

/-- The number of characters that are taken. -/
def first? (a : Pattern) (t : Text) : Option Nat := (a.ways t).head?

variable {a b : Pattern} {p : Char → Bool} {c : Char} {t rest : Text} {n : Nat}
  {heads heads' more more' : Set Char}

/-! ## The ways are the initial parts that match -/

/-- A run can be left at each of its characters. -/
theorem mem_runWays_iff :
    n ∈ runWays p t ↔ ∃ s, s <+: t ∧ s.length = n ∧ ∀ c ∈ s, p c = true := by
  have empty : ∀ t, ∃ s, s <+: t ∧ s.length = 0 ∧ ∀ c ∈ s, p c = true :=
    fun t => ⟨[], List.nil_prefix, rfl, by simp⟩
  induction t generalizing n with
  | nil =>
    rw [runWays, List.mem_singleton]
    constructor
    · rintro rfl
      exact empty []
    · rintro ⟨s, begins, rfl, -⟩
      rw [List.prefix_nil.mp begins, List.length_nil]
  | cons c t ih =>
    constructor
    · intro mem
      rw [runWays] at mem
      split at mem
      · rename_i here
        rcases List.mem_append.mp mem with further | stop
        · obtain ⟨m, shorter, rfl⟩ := List.mem_map.mp further
          obtain ⟨s, begins, rfl, all⟩ := ih.mp shorter
          refine ⟨c :: s, List.cons_prefix_cons.mpr ⟨rfl, begins⟩, rfl, ?_⟩
          rw [List.forall_mem_cons]
          exact ⟨here, all⟩
        · rw [List.mem_singleton.mp stop]
          exact empty _
      · rw [List.mem_singleton.mp mem]
        exact empty _
    · rintro ⟨s, begins, rfl, all⟩
      rw [runWays]
      cases s with
      | nil => split <;> simp
      | cons d s =>
        obtain ⟨rfl, later⟩ := List.cons_prefix_cons.mp begins
        rw [List.forall_mem_cons] at all
        rw [if_pos all.1, List.mem_append, List.mem_map]
        exact .inl ⟨s.length, ih.mpr ⟨s, later, rfl, all.2⟩, rfl⟩

/-- **The ways to find a pattern are the initial parts for which it stands.** -/
theorem mem_ways_iff : n ∈ a.ways t ↔ ∃ s, s <+: t ∧ s.length = n ∧ a.Matches s := by
  induction a generalizing t n with
  | one p =>
    cases t with
    | nil =>
      refine iff_of_false List.not_mem_nil ?_
      rintro ⟨s, begins, -, c, -, rfl⟩
      simp at begins
    | cons c t =>
      constructor
      · intro mem
        rw [ways] at mem
        split at mem
        · rename_i here
          obtain rfl := List.mem_singleton.mp mem
          exact ⟨[c], List.cons_prefix_cons.mpr ⟨rfl, List.nil_prefix⟩, rfl, c, here, rfl⟩
        · cases mem
      · rintro ⟨s, begins, rfl, d, here, rfl⟩
        obtain ⟨rfl, -⟩ := List.cons_prefix_cons.mp begins
        rw [ways, if_pos here]
        exact List.mem_cons_self
  | many p => exact mem_runWays_iff
  | seq a b iha ihb =>
    rw [ways, List.mem_flatMap]
    constructor
    · rintro ⟨k, mem, further⟩
      obtain ⟨m, mem', rfl⟩ := List.mem_map.mp further
      obtain ⟨r, ⟨rest, rfl⟩, rfl, first⟩ := iha.mp mem
      rw [List.drop_left] at mem'
      obtain ⟨s, begins, rfl, second⟩ := ihb.mp mem'
      exact ⟨r ++ s, (List.prefix_append_right_inj r).mpr begins, List.length_append, r, s, rfl,
        first, second⟩
    · rintro ⟨_, ⟨rest, rfl⟩, rfl, r, s, rfl, first, second⟩
      refine ⟨r.length, iha.mpr ⟨r, ?_, rfl, first⟩, ?_⟩
      · rw [List.append_assoc]
        exact List.prefix_append r _
      · rw [List.append_assoc, List.drop_left, List.length_append]
        exact List.mem_map_of_mem (ihb.mpr ⟨s, List.prefix_append s rest, rfl, second⟩)
  | optional a ih =>
    rw [ways, List.mem_append, List.mem_singleton, ih]
    constructor
    · rintro (⟨s, begins, length, found⟩ | rfl)
      · exact ⟨s, begins, length, .inr found⟩
      · exact ⟨[], List.nil_prefix, rfl, .inl rfl⟩
    · rintro ⟨s, begins, length, rfl | found⟩
      · exact .inr length.symm
      · exact .inl ⟨s, begins, length, found⟩

/-! ## The first way -/

/-- An optional pattern takes what the pattern takes, or nothing if that fails. -/
@[simp] theorem first?_optional (a : Pattern) (t : Text) :
    (optional a).first? t = some ((a.first? t).getD 0) := by
  rw [first?, first?, ways]
  cases a.ways t <;> rfl

/-- The first way on which the rest of the pattern follows. -/
theorem first?_seq (a b : Pattern) (t : Text) : (seq a b).first? t =
    (a.ways t).findSome? fun n => (b.first? (t.drop n)).map (n + ·) := by
  rw [first?, ways, List.head?_flatMap]
  simp only [List.head?_map, first?]

/-- A pattern that may take nothing is always found. -/
theorem exists_first?_of_matches_nil (nullable : b.Matches []) (t : Text) :
    ∃ n, b.first? t = some n := by
  have mem : 0 ∈ b.ways t := mem_ways_iff.mpr ⟨[], List.nil_prefix, rfl, nullable⟩
  exact ⟨_, List.head?_eq_some_head (List.ne_nil_of_mem mem)⟩

/-- In front of a pattern that may take nothing the first way is the one taken. -/
theorem first?_seq_of_matches_nil (nullable : b.Matches []) (t : Text) : (seq a b).first? t =
    (a.first? t).bind fun n => (b.first? (t.drop n)).map (n + ·) := by
  rw [first?_seq, first?]
  cases a.ways t with
  | nil => rfl
  | cons n others =>
    obtain ⟨m, found⟩ := exists_first?_of_matches_nil nullable (t.drop n)
    rw [List.findSome?_cons, List.head?_cons, Option.bind_some, found]
    rfl

/-- All characters of a run are taken. -/
theorem first?_many (p : Char → Bool) (t : Text) :
    (many p).first? t = some (t.takeWhile p).length := by
  rw [first?, ways]
  induction t with
  | nil => rfl
  | cons c t ih =>
    rw [runWays]
    by_cases here : p c = true
    · rw [if_pos here, List.head?_append, List.head?_map, ih, List.takeWhile_cons_of_pos here]
      rfl
    · rw [if_neg here, List.takeWhile_cons_of_neg here]
      rfl

/-- All characters of a run are taken, if there is one. -/
theorem first?_run (p : Char → Bool) (t : Text) : (run p).first? t =
    if (t.takeWhile p).length = 0 then none else some (t.takeWhile p).length := by
  rw [run, first?_seq_of_matches_nil (by simp [Matches])]
  cases t with
  | nil => rfl
  | cons c t =>
    by_cases here : p c = true
    · have one_more : (one p).first? (c :: t) = some 1 := by simp [first?, ways, here]
      rw [one_more, Option.bind_some, List.drop_one, List.tail_cons, first?_many,
        List.takeWhile_cons_of_pos here, List.length_cons, if_neg (Nat.succ_ne_zero _),
        Option.map_some, Nat.add_comm]
    · have no_more : (one p).first? (c :: t) = none := by simp [first?, ways, here]
      rw [no_more, List.takeWhile_cons_of_neg here]
      rfl

/-! ## First characters -/

/-- A pattern is not empty if its first part is not. -/
theorem not_matches_seq_nil (solid : ¬a.Matches []) (b : Pattern) : ¬(seq a b).Matches [] := by
  rintro ⟨r, s, parts, first, -⟩
  rw [(List.append_eq_nil_iff.mp parts.symm).1] at first
  exact solid first

/-- Every text for which the pattern stands is empty or begins with a character of `heads`. -/
def Begins (a : Pattern) (heads : Set Char) : Prop := ∀ s, a.Matches s → ∀ c ∈ s.head?, c ∈ heads

/-- More characters may be allowed to begin with. -/
theorem Begins.mono (ha : a.Begins heads) (within : heads ⊆ heads') : a.Begins heads' :=
  fun s found c first => within (ha s found c first)

/-- One character begins with itself. -/
theorem begins_one : (one p).Begins {c | p c = true} := by
  rintro s ⟨c, here, rfl⟩ d first
  cases first
  exact here

/-- A run begins with a character of its kind, if it takes any. -/
theorem begins_many : (many p).Begins {c | p c = true} := by
  intro s all c first
  exact all c (List.mem_of_mem_head? first)

/-- What a pattern and one behind it stand for begins as one of the two does. -/
theorem Begins.seq (ha : a.Begins heads) (hb : b.Begins heads') :
    (seq a b).Begins (heads ∪ heads') := by
  rintro _ ⟨r, s, rfl, first, second⟩ c head
  cases r with
  | nil => exact .inr (hb s second c head)
  | cons d r => exact .inl (ha (d :: r) first c head)

/-- Where the first of two patterns cannot be empty, the second one does not matter. -/
theorem Begins.seq_left (ha : a.Begins heads) (solid : ¬a.Matches []) (b : Pattern) :
    (Pattern.seq a b).Begins heads := by
  rintro _ ⟨r, s, rfl, first, -⟩ c head
  cases r with
  | nil => exact absurd first solid
  | cons d r => exact ha (d :: r) first c head

/-- An optional pattern begins like the pattern. -/
theorem Begins.optional (ha : a.Begins heads) : (optional a).Begins heads := by
  rintro s (rfl | found) c first
  · cases first
  · exact ha s found c first

/-- A run of at least one character begins with one of its kind. -/
theorem begins_run : (run p).Begins {c | p c = true} :=
  begins_one.seq_left (by simp [Matches]) _

/-- A pattern that cannot be empty is not found in front of another character. -/
theorem Begins.ways_eq_nil (ha : a.Begins heads) (solid : ¬a.Matches []) (other : c ∉ heads) :
    a.ways (c :: rest) = [] := by
  rw [List.eq_nil_iff_forall_not_mem]
  intro n mem
  obtain ⟨s, begins, -, found⟩ := mem_ways_iff.mp mem
  cases s with
  | nil => exact solid found
  | cons d s =>
    obtain ⟨rfl, -⟩ := List.cons_prefix_cons.mp begins
    exact other (ha _ found d rfl)

/-! ## When the first way is the longest -/

/-- The ways are listed from the longest to the shortest, and each but the first stops in front of a
character of `more`. -/
def Greedy (a : Pattern) (more : Set Char) : Prop :=
  ∀ t, (a.ways t).Pairwise fun n m => m < n ∧ ∃ c ∈ (t.drop m).head?, c ∈ more

/-- More characters may be allowed to go on with. -/
theorem Greedy.mono (ha : a.Greedy more) (within : more ⊆ more') : a.Greedy more' :=
  fun t => (ha t).imp fun {_ _} ⟨less, c, next, mem⟩ => ⟨less, c, next, within mem⟩

/-- One character never goes on. -/
theorem greedy_one : (one p).Greedy ∅ := by
  intro t
  cases t with
  | nil => exact .nil
  | cons c t =>
    rw [ways]
    split
    · exact List.pairwise_singleton _ _
    · exact .nil

/-- A run goes on with characters of its kind only. -/
theorem greedy_many : (many p).Greedy {c | p c = true} := by
  intro t
  rw [ways]
  induction t with
  | nil => exact List.pairwise_singleton _ _
  | cons c t ih =>
    rw [runWays]
    split
    · rename_i here
      refine List.pairwise_append.mpr ⟨?_, List.pairwise_singleton _ _, ?_⟩
      · refine List.pairwise_map.mpr (ih.imp ?_)
        rintro n m ⟨less, next⟩
        exact ⟨Nat.succ_lt_succ less, next⟩
      · intro n mem m stop
        obtain ⟨k, -, rfl⟩ := List.mem_map.mp mem
        obtain rfl := List.mem_singleton.mp stop
        exact ⟨Nat.succ_pos k, c, rfl, here⟩
    · exact List.pairwise_singleton _ _

/-- The ways of two patterns in a row, if those of the first are told apart by what follows. -/
theorem greedy_seq_of (hb : b.Greedy more) (apart : ∀ t, (a.ways t).Pairwise fun n m =>
      ∀ x ∈ b.ways (t.drop n), ∀ y ∈ b.ways (t.drop m),
        m + y < n + x ∧ ∃ c ∈ (t.drop (m + y)).head?, c ∈ more) :
    (seq a b).Greedy more := by
  intro t
  rw [ways, List.pairwise_flatMap]
  constructor
  · intro n mem
    refine List.pairwise_map.mpr ((hb (t.drop n)).imp ?_)
    rintro x y ⟨less, next⟩
    rw [List.drop_drop] at next
    exact ⟨Nat.add_lt_add_left less n, next⟩
  · refine (apart t).imp fun {n m} apart => ?_
    intro _ longer _ shorter
    obtain ⟨x, mem, rfl⟩ := List.mem_map.mp longer
    obtain ⟨y, mem', rfl⟩ := List.mem_map.mp shorter
    exact apart x mem y mem'

/-- **Patterns in a row.** The second pattern takes nothing where the first could have gone on, so of
the ways of the first all but one end there. -/
theorem Greedy.seq (ha : a.Greedy more) (hb : b.Greedy more') (begins : b.Begins heads)
    (apart : Disjoint more heads) : (seq a b).Greedy (more ∪ more') := by
  refine greedy_seq_of (hb.mono Set.subset_union_right) fun t => (ha t).imp fun {n m} shorter => ?_
  obtain ⟨less, c, next, mem⟩ := shorter
  intro x _ y found
  obtain ⟨rest, left⟩ := List.head?_eq_some_iff.mp next
  obtain ⟨s, initial, rfl, matched⟩ := mem_ways_iff.mp found
  cases s with
  | nil => exact ⟨Nat.lt_add_right x less, c, next, .inl mem⟩
  | cons d s =>
    rw [left] at initial
    obtain ⟨rfl, -⟩ := List.cons_prefix_cons.mp initial
    exact absurd (begins _ matched d rfl) (Set.disjoint_left.mp apart mem)

/-- An optional pattern that cannot be empty itself. -/
theorem Greedy.optional (ha : a.Greedy more) (begins : a.Begins heads) (solid : ¬a.Matches []) :
    (optional a).Greedy (more ∪ heads) := by
  intro t
  rw [ways]
  refine List.pairwise_append.mpr
    ⟨ha.mono Set.subset_union_left t, List.pairwise_singleton _ _, ?_⟩
  intro n mem m stop
  obtain rfl := List.mem_singleton.mp stop
  obtain ⟨s, initial, rfl, matched⟩ := mem_ways_iff.mp mem
  cases s with
  | nil => exact absurd matched solid
  | cons d s =>
    obtain ⟨rest, rfl⟩ := initial
    exact ⟨Nat.succ_pos _, d, rfl, .inr (begins _ matched d rfl)⟩

/-- So does a run of at least one character. -/
theorem greedy_run : (run p).Greedy {c | p c = true} :=
  (greedy_one.seq greedy_many begins_many (Set.empty_disjoint _)).mono (by simp)

/-- **The first way of a greedy pattern is the longest initial part for which it stands.** -/
theorem Greedy.first?_eq_some_iff (ha : a.Greedy more) : a.first? t = some n ↔
    IsGreatest {n | ∃ s, s <+: t ∧ s.length = n ∧ a.Matches s} n := by
  have members : {n | ∃ s, s <+: t ∧ s.length = n ∧ a.Matches s} = {n | n ∈ a.ways t} :=
    Set.ext fun n => mem_ways_iff.symm
  have greatest : ∀ n, a.first? t = some n → IsGreatest {n | n ∈ a.ways t} n := by
    intro n first
    obtain ⟨others, ways_eq⟩ := List.head?_eq_some_iff.mp first
    have ordered := ha t
    rw [ways_eq, List.pairwise_cons] at ordered
    rw [ways_eq]
    refine ⟨List.mem_cons_self, fun m mem => ?_⟩
    rcases List.mem_cons.mp mem with rfl | later
    · exact le_rfl
    · exact (ordered.1 m later).1.le
  rw [members]
  refine ⟨greatest n, fun isGreatest => ?_⟩
  have first := List.head?_eq_some_head (List.ne_nil_of_mem isGreatest.1)
  exact first.trans (congrArg some ((greatest _ first).unique isGreatest))

end Pattern

end StepScript.Scan
