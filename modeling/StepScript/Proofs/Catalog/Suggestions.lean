import Mathlib
import StepScript.Proofs.Catalog.Loading
import StepScript.Proofs.Phrase.Words
import StepScript.Proofs.Text.Lowering

/-!
# Suggestions while a step is typed

**Typing a step keeps it.** Completion takes what was typed apart into words, drops as many of them
as form a keyword, and looks for each of the others in the filter text and the label of a step. When
a step is typed, the cut may fall anywhere: inside a keyword, a word or a literal with blanks. It
does not matter how the words come out, or how many are dropped, since each of them occurs in what
was typed (`Phrase.infix_of_mem_words`) and this begins the phrase of the step, which is its filter
text when the entry gave none. Lower case keeps that, as long as there is no capital sigma in the
phrase (`Text.lower_infix`).

**A strict order.** Suggestions are sorted by sort text, label and key (`Step.ListedBefore`). Two
steps of a catalog have different keys if they were derived under one vocabulary
(`Catalog.DerivedUnder.nodup_keys`), so no two suggestions tie.
-/

namespace StepScript

/-! ## Comparing texts -/

namespace Text

/-- Texts are compared like words in a dictionary. -/
theorem compare_eq_lt_iff {s t : Text} : compare s t = .lt ↔ s < t := by
  change List.compareLex compare s t = .lt ↔ s < t
  induction s generalizing t with
  | nil => cases t <;> simp [List.compareLex]
  | cons c s ih =>
    cases t with
    | nil => simp [List.compareLex]
    | cons d t =>
      rw [List.compareLex_cons_cons, Ordering.then_eq_lt, ih, compare_lt_iff_lt,
        Std.compare_eq_iff_eq, List.cons_lt_cons_iff]

end Text

namespace Step

/-- The strict order of the listing: by sort text, then by label, then by key. -/
def ListedBefore (a b : Step) : Prop :=
  a.sortText < b.sortText ∨ (a.sortText = b.sortText ∧
    (a.label < b.label ∨ (a.label = b.label ∧ a.key < b.key)))

variable {a b : Step}

/-- Of two steps with different keys that stand in order, one is listed before the other. -/
theorem listedBefore_of_precedes (ordered : a.precedes b = true) (keys : a.key ≠ b.key) :
    a.ListedBefore b := by
  have key : (compare a.key b.key).isLE = true → a.key < b.key := by
    intro le
    have ne : compare a.key b.key ≠ .eq := fun same => keys (Std.compare_eq_iff_eq.mp same)
    rw [← Text.compare_eq_lt_iff]
    cases order : compare a.key b.key with
    | lt => rfl
    | eq => exact absurd order ne
    | gt => rw [order] at le; cases le
  rw [precedes, Ordering.isLE_then_iff_or, Ordering.isLE_then_iff_or] at ordered
  simp only [Text.compare_eq_lt_iff, Std.compare_eq_iff_eq] at ordered
  exact ordered.imp_right fun same => same.imp_right fun later =>
    later.imp_right fun same => same.imp_right key

/-- Sorted steps are in order. -/
theorem pairwise_mergeSort_precedes (steps : List Step) :
    (steps.mergeSort precedes).Pairwise fun a b => a.precedes b = true := by
  -- three comparisons, of which a later one counts when those before it find no difference
  let order : Step → Step → Ordering :=
    compareLex (compareOn Step.sortText) (compareLex (compareOn Step.label) (compareOn Step.key))
  have transitive : ∀ a b d, (order a b).isLE = true → (order b d).isLE = true →
      (order a d).isLE = true := fun _ _ _ => Std.TransCmp.isLE_trans
  have total : ∀ a b, ((order a b).isLE || (order b a).isLE) = true := by
    intro a b
    have swapped : order b a = (order a b).swap := Std.OrientedCmp.eq_swap
    rw [swapped]
    cases order a b <;> rfl
  exact List.pairwise_mergeSort transitive total steps

/-- No two steps with different keys tie. -/
theorem pairwise_listedBefore {steps : List Step} (keys : (steps.map key).Nodup) :
    (steps.mergeSort precedes).Pairwise ListedBefore := by
  have sorted_keys : ((steps.mergeSort precedes).map key).Nodup :=
    ((List.mergeSort_perm steps _).map key).nodup_iff.mpr keys
  have both := (pairwise_mergeSort_precedes steps).and (List.pairwise_map.mp sorted_keys)
  exact both.imp fun h => listedBefore_of_precedes h.1 h.2

/-- The filter text of an entry that gives none is the phrase. -/
theorem filterText_of_ofEntry?_eq_some {entry : StepEntry} {order : Nat} {v : Vocabulary}
    {s : Step} (made : ofEntry? entry order v = some s) (none_given : entry.filterText = []) :
    s.filterText = Text.unwords s.head := by
  unfold ofEntry? at made
  rw [none_given] at made
  split at made
  · cases made
  · dsimp only at made
    split at made
    · cases made
    · cases made
      rfl

end Step

namespace Catalog

variable {c : Catalog} {v : Vocabulary} {s : Step} {typed : Text}

/-! ## The order of suggestions -/

/-- Steps that were derived under one vocabulary have different keys. -/
theorem DerivedUnder.nodup_keys (derived : c.DerivedUnder v) :
    (c.steps.values.map Step.key).Nodup := by
  have stored : c.steps.values.map Step.key = c.steps.entries.map Prod.fst := by
    rw [Table.values, List.map_map]
    refine List.map_congr_left fun e mem => ?_
    obtain ⟨key, step⟩ := derived e.1 e.2 (Table.mem_entries_iff.mp mem)
    rw [key, ← Step.key_relabel e.2 v, step]
    rfl
  rw [stored]
  exact c.steps.keys_nodup

/-- **No two steps tie in the listing.** -/
theorem DerivedUnder.pairwise_sorted (derived : c.DerivedUnder v) :
    c.sorted.Pairwise Step.ListedBefore := Step.pairwise_listedBefore derived.nodup_keys

/-! ## What is suggested -/

/-- **What begins the phrase of a step leads to it**, wherever it ends, if completion searches the
phrase. -/
theorem mem_suggest_of_prefix (mem : s ∈ c.steps.values)
    (phrase : s.filterText = Text.unwords s.head) (plain : 'Σ' ∉ Text.unwords s.head)
    (begins : typed <+: Text.unwords s.head) : s ∈ c.suggest typed v := by
  refine List.mem_filter.mpr ⟨List.mem_mergeSort.mpr mem, ?_⟩
  rw [Step.isFoundBy, List.all_eq_true]
  intro needle needle_mem
  obtain ⟨word, word_mem, rfl⟩ := List.mem_map.mp needle_mem
  have typed_part : word <:+: typed := Phrase.infix_of_mem_words (List.mem_of_mem_drop word_mem)
  have part : word <:+: Text.unwords s.head := typed_part.trans begins.isInfix
  rw [Text.occursIn_iff, phrase]
  exact Text.lower_infix plain part _

/-- **Typing a step never drops it from the suggestions.** Under any vocabulary, whatever was loaded,
a step whose entry gave no filter text is suggested for every text that begins its phrase, if there
is no capital sigma in the phrase. The suggestions for any text are strictly ordered by sort text,
label and key. -/
theorem suggest_while_typing (v : Vocabulary) (calls : List Call) (typed : Text) :
    (∀ s ∈ (made (calls.map (·, v))).steps.values, ∀ entry,
      Step.ofEntry? entry s.order v = some s → entry.filterText = [] →
        'Σ' ∉ Text.unwords s.head → typed <+: Text.unwords s.head →
          s ∈ (made (calls.map (·, v))).suggest typed v) ∧
      ((made (calls.map (·, v))).suggest typed v).Pairwise Step.ListedBefore := by
  constructor
  · intro s mem entry entry_made none_given plain begins
    have phrase := Step.filterText_of_ofEntry?_eq_some entry_made none_given
    exact mem_suggest_of_prefix mem phrase plain begins
  · exact (keepsLatest_made v calls).derived.pairwise_sorted.filter _

/-- A vocabulary with a keyword of two words. -/
def andThen : Vocabulary := Vocabulary.empty.withKeywords ["And then".toList]

/-- An entry with this keyword and a literal with a blank. -/
def openMyPage : StepEntry := ⟨"And then I open \"my page\"".toList, [], [], [], 0, []⟩

/-- The step of this entry. -/
def openMyPageStep : Step where
  head := ["And".toList, "then".toList, "I".toList, "open".toList, "\"my page\"".toList]
  body := []
  documentation := []
  filterText := "And then I open \"my page\"".toList
  sortText := []
  group := []
  kind := 0
  order := 1
  key := "i open".toList
  keyword := "and then".toList
  label := "I open \"my page\"".toList
  insertText := "I open \"my page\"".toList

/-- The step is suggested while its literal is typed. -/
theorem suggest_while_typing_openMyPage :
    openMyPageStep ∈ (made ([.extend [openMyPage] false].map (·, andThen))).steps.values ∧
      Step.ofEntry? openMyPage openMyPageStep.order andThen = some openMyPageStep ∧
      openMyPage.filterText = [] ∧ 'Σ' ∉ Text.unwords openMyPageStep.head ∧
      "And then I open \"my p".toList <+: Text.unwords openMyPageStep.head ∧
      openMyPageStep ∈ (made ([.extend [openMyPage] false].map (·, andThen))).suggest
        "And then I open \"my p".toList andThen := by
  have loaded : openMyPageStep ∈
      (made ([.extend [openMyPage] false].map (·, andThen))).steps.values := by decide +kernel
  have entry_made : Step.ofEntry? openMyPage openMyPageStep.order andThen = some openMyPageStep := by
    decide +kernel
  have plain : 'Σ' ∉ Text.unwords openMyPageStep.head := by decide +kernel
  have begins : "And then I open \"my p".toList <+: Text.unwords openMyPageStep.head := by
    decide +kernel
  exact ⟨loaded, entry_made, rfl, plain, begins,
    (suggest_while_typing andThen _ _).1 openMyPageStep loaded openMyPage entry_made rfl plain
      begins⟩

end Catalog

end StepScript
