import Mathlib
import StepScript.Vocabulary

/-!
# What the keyword table of a list of phrases is

**The table, said without the algorithm.** Every phrase stands for its words in lower case. The
table of a list of phrases has these sequences of words, each once and no empty one; longer
sequences come first, and of two equally long ones that one which the list has first
(`Vocabulary.IsKeywordTable`). Any two entries of a table are thereby put in order, so a list of
phrases has only one table.

**How it is made.** `Vocabulary.addPhrase` gathers the sequences in the order of their first
occurrence (`pairwise_foldl_addPhrase`), and a sort puts the long ones in front. The sort is stable
(`pairwise_mergeSort_stable`): sequences of one length go through it as they are, so their order is
still that of first occurrence.

**Finding one.** Words begin with a keyword exactly if the table has it
(`Vocabulary.mem_of_matchKeyword?_eq_some`, `Vocabulary.exists_matchKeyword?`).
-/

namespace StepScript

/-- **A stable sort keeps the order of what ties.** -/
theorem pairwise_mergeSort_stable {α : Type} {le : α → α → Bool} {earlier : α → α → Prop}
    (transitive : ∀ a b c, le a b = true → le b c = true → le a c = true)
    (total : ∀ a b, (le a b || le b a) = true) {list : List α} (sorted : list.Pairwise earlier) :
    (list.mergeSort le).Pairwise fun a b => le a b = true ∧ (le b a = true → earlier a b) := by
  have ordered := List.pairwise_mergeSort transitive total list
  rw [List.pairwise_iff_forall_sublist] at sorted ordered ⊢
  intro a b pair
  refine ⟨ordered pair, fun back => sorted ?_⟩
  -- What ties with `a` comes through the sort in the order that it had.
  let ties : α → Bool := fun c => le a c && le c a
  have alike : (list.filter ties).Pairwise fun c d => le c d = true := by
    refine List.pairwise_of_forall_mem_list fun c c_mem d d_mem => ?_
    have c_ties := Bool.and_eq_true_iff.mp (List.mem_filter.mp c_mem).2
    have d_ties := Bool.and_eq_true_iff.mp (List.mem_filter.mp d_mem).2
    exact transitive c a d c_ties.2 d_ties.1
  have through : (list.filter ties).Sublist ((list.mergeSort le).filter ties) := by
    have sublist := List.sublist_mergeSort transitive total alike List.filter_sublist
    simpa only [List.filter_filter, Bool.and_self] using sublist.filter ties
  have same : list.filter ties = (list.mergeSort le).filter ties :=
    through.eq_of_length ((List.mergeSort_perm list le).filter ties).length_eq.symm
  have self : le a a = true := by simpa using total a a
  have both : [a, b].filter ties = [a, b] := by simp [ties, self, ordered pair, back]
  rw [← both]
  exact (same ▸ pair.filter ties : ([a, b].filter ties).Sublist (list.filter ties)).trans
    List.filter_sublist

namespace Vocabulary

/-- The words of a phrase, in lower case. -/
def foldedWords (phrase : Text) : List Text := Text.words phrase.lower

/-- What a keyword table of phrases is. -/
structure IsKeywordTable (phrases : List Text) (table : List (List Text)) : Prop where
  /-- It has the words of each phrase in lower case, except for blank phrases, and nothing else. -/
  mem_iff : ∀ words, words ∈ table ↔ words ∈ phrases.map foldedWords ∧ words ≠ []
  /-- It repeats nothing. -/
  nodup : table.Nodup
  /-- Longer phrases come first, and of two equally long ones that which occurs first. -/
  ordered : table.Pairwise fun a b => b.length < a.length ∨
    (b.length = a.length ∧
      (phrases.map foldedWords).idxOf a < (phrases.map foldedWords).idxOf b)

/-! ## Gathering -/

/-- A phrase adds its words, unless there are none or they are there already. -/
theorem addPhrase_eq (before : List (List Text)) (phrase : Text) :
    addPhrase before phrase =
      if foldedWords phrase = [] ∨ foldedWords phrase ∈ before then before
      else before ++ [foldedWords phrase] := rfl

/-- What is gathered from phrases: their words, if there are any. -/
theorem mem_foldl_addPhrase {words : List Text} (phrases : List Text) (before : List (List Text)) :
    words ∈ phrases.foldl addPhrase before ↔
      words ∈ before ∨ (words ∈ phrases.map foldedWords ∧ words ≠ []) := by
  induction phrases generalizing before with
  | nil => simp
  | cons phrase phrases ih =>
    have added : words ∈ addPhrase before phrase ↔
        words ∈ before ∨ (words = foldedWords phrase ∧ words ≠ []) := by
      rw [addPhrase_eq]
      split
      · rename_i old
        constructor
        · exact Or.inl
        · rintro (mem | ⟨rfl, nonempty⟩)
          · exact mem
          · exact old.resolve_left nonempty
      · rename_i new
        push Not at new
        rw [List.mem_append, List.mem_singleton]
        constructor
        · rintro (mem | rfl)
          · exact .inl mem
          · exact .inr ⟨rfl, new.1⟩
        · rintro (mem | ⟨rfl, -⟩)
          · exact .inl mem
          · exact .inr rfl
    rw [List.foldl_cons, ih, added, List.map_cons, List.mem_cons, or_and_right, or_assoc]

/-- Phrases are gathered in the order in which they first occur. -/
theorem pairwise_foldl_addPhrase (phrases : List Text) :
    (phrases.foldl addPhrase []).Pairwise fun a b =>
      (phrases.map foldedWords).idxOf a < (phrases.map foldedWords).idxOf b := by
  induction phrases using List.reverseRecOn with
  | nil => exact List.Pairwise.nil
  | append_singleton phrases phrase ih =>
    set all := phrases.map foldedWords
    have occurs : ∀ words ∈ phrases.foldl addPhrase [], words ∈ all := by
      intro words mem
      rw [mem_foldl_addPhrase] at mem
      exact (mem.resolve_left List.not_mem_nil).1
    -- One more phrase at the end does not change where the others first occur.
    have kept : (phrases.foldl addPhrase []).Pairwise fun a b =>
        (all ++ [foldedWords phrase]).idxOf a < (all ++ [foldedWords phrase]).idxOf b := by
      refine ih.imp_of_mem fun ha hb before => ?_
      rwa [List.idxOf_append_of_mem (occurs _ ha), List.idxOf_append_of_mem (occurs _ hb)]
    rw [List.foldl_append, List.map_append, List.foldl_cons, List.foldl_nil, addPhrase_eq]
    split
    · exact kept
    · rename_i new
      push Not at new
      have absent : foldedWords phrase ∉ all := by
        intro mem
        exact new.2 ((mem_foldl_addPhrase phrases []).mpr (.inr ⟨mem, new.1⟩))
      rw [List.pairwise_append]
      refine ⟨kept, List.pairwise_singleton _ _, fun words mem last hlast => ?_⟩
      obtain rfl := List.mem_singleton.mp hlast
      rw [List.map_singleton, List.idxOf_append_of_mem (occurs words mem),
        List.idxOf_append_of_notMem absent]
      exact Nat.lt_add_right _ (List.idxOf_lt_length_of_mem (occurs words mem))

/-! ## Sorting -/

/-- Sorting by length keeps an order among phrases of equal length. -/
theorem pairwise_longestFirst {R : List Text → List Text → Prop} {list : List (List Text)}
    (ordered : list.Pairwise R) :
    (list.mergeSort fun a b => b.length ≤ a.length).Pairwise fun a b =>
      b.length < a.length ∨ (b.length = a.length ∧ R a b) := by
  let longer (a b : List Text) : Bool := b.length ≤ a.length
  have transitive : ∀ a b c, longer a b = true → longer b c = true → longer a c = true := by
    intro a b c hab hbc
    rw [decide_eq_true_eq] at *
    exact hbc.trans hab
  have total : ∀ a b, (longer a b || longer b a) = true := fun a b => by
    simpa [longer] using Nat.le_total b.length a.length
  have sorted := pairwise_mergeSort_stable transitive total ordered
  refine sorted.imp fun {a b} h => ?_
  rw [decide_eq_true_eq, decide_eq_true_eq] at h
  rcases Nat.lt_or_eq_of_le h.1 with shorter | same
  · exact .inl shorter
  · exact .inr ⟨same, h.2 same.ge⟩

/-- Phrases that are gathered with the long ones first are the table as they are. -/
theorem keywordTable_of_pairwise {phrases : List Text} {table : List (List Text)}
    (gathered : phrases.foldl addPhrase [] = table)
    (sorted : table.Pairwise fun a b => decide (b.length ≤ a.length) = true) :
    keywordTable phrases = table := by
  rw [keywordTable, gathered, List.mergeSort_of_pairwise sorted]

/-- **The keyword table of phrases is what it has to be.** -/
theorem isKeywordTable_keywordTable (phrases : List Text) :
    IsKeywordTable phrases (keywordTable phrases) := by
  have gathered := pairwise_foldl_addPhrase phrases
  refine ⟨fun words => ?_, ?_, pairwise_longestFirst gathered⟩
  · rw [keywordTable, List.mem_mergeSort, mem_foldl_addPhrase]
    simp
  · rw [keywordTable, (List.mergeSort_perm _ _).nodup_iff]
    refine gathered.imp fun before same => ?_
    rw [same] at before
    exact lt_irrefl _ before

/-! ## The leading keyword -/

variable {v : Vocabulary} {words : List Text}

/-- Only the lower case of words counts for the leading keyword. -/
theorem keywordLength_congr {others : List Text}
    (same : words.map Text.lower = others.map Text.lower) :
    v.keywordLength words = v.keywordLength others := by
  rw [keywordLength, keywordLength, matchKeyword?, matchKeyword?, same]

/-- The words that were found to form a keyword are, in lower case, a phrase of the table. -/
theorem mem_of_matchKeyword?_eq_some {n : Nat} (matched : v.matchKeyword? words = some n) :
    (words.take n).map Text.lower ∈ v.keywords ∧ n ≤ words.length := by
  rw [matchKeyword?, Option.map_eq_some_iff] at matched
  obtain ⟨phrase, found, rfl⟩ := matched
  have fits : phrase.isPrefixOf (words.map Text.lower) = true := by
    simpa using List.find?_some found
  have leading : phrase <+: words.map Text.lower := List.isPrefixOf_iff_prefix.mp fits
  have all := leading.length_le
  rw [List.length_map] at all
  rw [List.map_take, ← List.prefix_iff_eq_take.mp leading]
  exact ⟨List.mem_of_find?_eq_some found, all⟩

/-- Words that begin with a keyword are found to. -/
theorem exists_matchKeyword? {phrase : List Text} (mem : phrase ∈ v.keywords)
    (leading : phrase <+: words.map Text.lower) : ∃ n, v.matchKeyword? words = some n := by
  rw [← Option.isSome_iff_exists, matchKeyword?, Option.isSome_map, List.find?_isSome]
  exact ⟨phrase, mem, List.isPrefixOf_iff_prefix.mpr leading⟩

/-- The leading words that form a keyword, in lower case: a phrase of the table, or none. -/
theorem take_keywordLength (v : Vocabulary) (words : List Text) :
    ((words.take (v.keywordLength words)).map Text.lower = [] ∨
      (words.take (v.keywordLength words)).map Text.lower ∈ v.keywords) ∧
    v.keywordLength words ≤ words.length := by
  rw [keywordLength]
  cases matched : v.matchKeyword? words with
  | none => exact ⟨.inl rfl, Nat.zero_le _⟩
  | some n =>
    obtain ⟨mem, within⟩ := mem_of_matchKeyword?_eq_some matched
    exact ⟨.inr mem, within⟩

/-- There is no keyword without words. -/
theorem length_pos_of_mem_withKeywords (v : Vocabulary) (phrases : List Text) :
    ∀ phrase ∈ (v.withKeywords phrases).keywords, 0 < phrase.length := by
  intro phrase mem
  rw [List.length_pos_iff]
  exact ((isKeywordTable_keywordTable phrases).mem_iff phrase |>.mp mem).2

/-- No keyword has more words than the first one of the table. -/
theorem length_le_longestPhrase (v : Vocabulary) (phrases : List Text) :
    ∀ phrase ∈ (v.withKeywords phrases).keywords,
      phrase.length ≤ (v.withKeywords phrases).longestPhrase := by
  intro phrase mem
  have ordered := (isKeywordTable_keywordTable phrases).ordered
  change phrase ∈ keywordTable phrases at mem
  change phrase.length ≤ ((keywordTable phrases).head?.map List.length).getD 0
  cases table : keywordTable phrases with
  | nil => simp [table] at mem
  | cons first others =>
    rw [table] at mem ordered
    rcases List.mem_cons.mp mem with rfl | later
    · exact le_rfl
    · rcases (List.pairwise_cons.mp ordered).1 phrase later with shorter | ⟨same, -⟩
      · exact shorter.le
      · exact same.le

end Vocabulary

end StepScript
