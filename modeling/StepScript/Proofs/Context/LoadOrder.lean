import Mathlib
import StepScript.Proofs.Context.Coherence

/-!
# Steps before keywords, or keywords before steps

**Two orders.** Steps and keywords may be loaded in either order, and each time the catalog is keyed
anew. If the keywords come first, the catalog has the latest of all steps at hand under the new
keywords (`Catalog.mem_values_keywordsFirst`). If the steps come first, they are merged under the
old keywords, and only the latest of what is left has a place under the new ones
(`Catalog.mem_values_stepsFirst`).

**Where they differ.** A step that is replaced under the old keywords is gone. That does not matter
as long as it would be replaced under the new keywords too, and only then: the two orders leave the
same catalog exactly if every step that is the latest of its key under the new keywords was so under
the old ones (`Catalog.sameSteps_iff`). It is so if steps that share a key go on sharing one
(`Catalog.noneLost_of_together`), and it fails when the old keywords hide a difference that the new
ones show: `Given x` and `When x` are one step as long as both first words are keywords, and two
when neither is.
-/

namespace StepScript

/-- What a script and a completion show of a step. -/
def Step.shown (s : Step) : List Text × List Text × Text × Text × Text :=
  (s.head, s.body, s.label, s.keyword, s.insertText)

namespace Catalog

/-- Two catalogs with the same keys, and steps under them that show the same. -/
def SameSteps (a b : Catalog) : Prop :=
  ∀ key, (a.find? key).map Step.shown = (b.find? key).map Step.shown

/-- Every step that is the latest of its key under `w` is the latest of its key under `v`. -/
def NoneLost (v w : Vocabulary) (steps : List Step) : Prop :=
  ∀ s, Step.IsLatest w steps s → Step.IsLatest v steps s

section Orders

variable (c : Catalog) (entries : List StepEntry) (clear : Bool)

/-- The catalog after a new vocabulary `w` and then the entries. -/
def keywordsFirst (w : Vocabulary) : Catalog :=
  ((c.relabelAll w).extend entries clear w).relabelAll w

/-- The catalog after the entries, under the old vocabulary `v`, and then the new one. -/
def stepsFirst (v w : Vocabulary) : Catalog :=
  ((c.extend entries clear v).relabelAll v).relabelAll w

/-- With the keywords first, the steps are derived under the new keywords. -/
theorem derivedUnder_keywordsFirst (w : Vocabulary) :
    (c.keywordsFirst entries clear w).DerivedUnder w := derivedUnder_relabelAll _ w

/-- With the steps first, they are derived under the new keywords as well. -/
theorem derivedUnder_stepsFirst (v w : Vocabulary) :
    (c.stepsFirst entries clear v w).DerivedUnder w := derivedUnder_relabelAll _ w

end Orders

variable {c : Catalog} {v w : Vocabulary} {entries : List StepEntry} {clear : Bool} {u : Step}

/-! ## Keywords first -/

/-- What is offered to a catalog that was derived anew: the latest of its steps, and the steps of
the entries, derived anew like them. -/
theorem isLatest_offered_relabelAll (numbered : c.Numbered) :
    Step.IsLatest w ((c.relabelAll w).offered entries clear w) u ↔
      ∃ s, Step.IsLatest w (c.offered entries clear v) s ∧ s.relabel w = u := by
  have new := newSteps_eq_map_relabel c.loaded entries v w
  cases clear with
  | true =>
    change Step.IsLatest w ([] ++ newSteps c.loaded entries w) u ↔
      ∃ s, Step.IsLatest w ([] ++ newSteps c.loaded entries v) s ∧ s.relabel w = u
    rw [new, List.nil_append, List.nil_append, Step.isLatest_map_relabel]
  | false =>
    change Step.IsLatest w ((c.relabelAll w).steps.values ++ newSteps c.loaded entries w) u ↔
      ∃ s, Step.IsLatest w (c.steps.values ++ newSteps c.loaded entries v) s ∧ s.relabel w = u
    set kept := c.steps.values.filter fun s => Step.IsLatest w c.steps.values s
    have kept_iff : ∀ s, s ∈ kept ↔ Step.IsLatest w c.steps.values s := by
      intro s
      rw [List.mem_filter, decide_eq_true_eq, and_iff_right_iff_imp]
      exact And.left
    have same : ∀ s, s ∈ (c.relabelAll w).steps.values ++ newSteps c.loaded entries w ↔
        s ∈ (kept ++ newSteps c.loaded entries v).map (·.relabel w) := by
      intro s
      rw [new, List.map_append, List.mem_append, List.mem_append, mem_values_relabelAll numbered]
      simp only [List.mem_map, kept_iff]
    rw [Step.isLatest_congr same, Step.isLatest_map_relabel]
    simp only [Step.isLatest_append kept_iff]

/-- **Keywords first.** The catalog has the latest of all steps at hand under the new vocabulary. -/
theorem mem_values_keywordsFirst (numbered : c.Numbered) (v : Vocabulary) :
    u ∈ (c.keywordsFirst entries clear w).steps.values ↔
      ∃ s, Step.IsLatest w (c.offered entries clear v) s ∧ s.relabel w = u := by
  have extended := keepsLatest_extend (derivedUnder_relabelAll c w)
    (numbered_relabelAll numbered w) entries clear
  rw [keywordsFirst, extended.derived.mem_values_relabelAll extended.numbered, extended.mem_iff,
    isLatest_offered_relabelAll numbered]

/-! ## Steps first -/

/-- Loading entries, and deriving the catalog anew under its own vocabulary, leaves the latest of
all steps at hand under that vocabulary. -/
theorem keepsLatest_relabelAll_extend (derived : c.DerivedUnder v) (numbered : c.Numbered)
    (entries : List StepEntry) (clear : Bool) :
    KeepsLatest v (c.offered entries clear v) ((c.extend entries clear v).relabelAll v) := by
  have extended := keepsLatest_extend derived numbered entries clear
  refine ⟨derivedUnder_relabelAll _ v, numbered_relabelAll extended.numbered v, fun s => ?_⟩
  rw [extended.derived.mem_values_relabelAll extended.numbered, extended.mem_iff]

/-- **Steps first.** The catalog has the latest under the new vocabulary of those steps that are the
latest under the old one. -/
theorem mem_values_stepsFirst {kept : List Step} (derived : c.DerivedUnder v)
    (numbered : c.Numbered)
    (kept_iff : ∀ s, s ∈ kept ↔ Step.IsLatest v (c.offered entries clear v) s) :
    u ∈ (c.stepsFirst entries clear v w).steps.values ↔
      ∃ s, Step.IsLatest w kept s ∧ s.relabel w = u := by
  have first := keepsLatest_relabelAll_extend derived numbered entries clear
  rw [stepsFirst, mem_values_relabelAll first.numbered]
  simp only [Step.isLatest_congr fun s => (first.mem_iff s).trans (kept_iff s).symm]

/-! ## Both orders -/

/-- If none of the steps is lost under the old vocabulary, the latest under the new one are among
those that are kept. -/
theorem NoneLost.isLatest_kept_iff {steps kept : List Step} (noneLost : NoneLost v w steps)
    (kept_iff : ∀ s, s ∈ kept ↔ Step.IsLatest v steps s) {s : Step} :
    Step.IsLatest w kept s ↔ Step.IsLatest w steps s := by
  constructor
  · rintro ⟨mem, last⟩
    refine ⟨((kept_iff s).mp mem).1, fun t t_mem t_key => ?_⟩
    -- The latest rival of `t` under the new vocabulary was not lost.
    obtain ⟨u, latest, u_key, le⟩ := Step.exists_isLatest w t_mem
    exact le.trans (last u ((kept_iff u).mpr (noneLost u latest)) (u_key.trans t_key))
  · intro latest
    refine ⟨(kept_iff s).mpr (noneLost s latest), fun t t_mem t_key => ?_⟩
    exact latest.2 t ((kept_iff t).mp t_mem).1 t_key

/-- None is lost if steps that share a key under the old vocabulary share one under the new. -/
theorem noneLost_of_together {steps : List Step}
    (together : ∀ s ∈ steps, ∀ t ∈ steps, v.stepKey s.head = v.stepKey t.head →
      w.stepKey s.head = w.stepKey t.head) : NoneLost v w steps :=
  fun s latest => ⟨latest.1, fun t t_mem t_key =>
    latest.2 t t_mem (together t t_mem s latest.1 t_key)⟩

section Both

variable (derived : c.DerivedUnder v) (numbered : c.Numbered)

include derived numbered

/-- If none of the steps is lost under the old vocabulary, both orders leave the same catalog, down
to the numbers of the steps. -/
theorem find?_keywordsFirst (noneLost : NoneLost v w (c.offered entries clear v)) (key : Text) :
    (c.keywordsFirst entries clear w).find? key = (c.stepsFirst entries clear v w).find? key := by
  have first := keepsLatest_relabelAll_extend derived numbered entries clear
  ext u
  rw [(derivedUnder_keywordsFirst c entries clear w).find?_eq_some_iff,
    (derivedUnder_stepsFirst c entries clear v w).find?_eq_some_iff,
    mem_values_keywordsFirst numbered v, mem_values_stepsFirst derived numbered first.mem_iff]
  simp only [noneLost.isLatest_kept_iff first.mem_iff]

/-- **The order does not matter exactly if none is lost under the old vocabulary.** -/
theorem sameSteps_iff :
    (c.keywordsFirst entries clear w).SameSteps (c.stepsFirst entries clear v w) ↔
      NoneLost v w (c.offered entries clear v) := by
  have first := keepsLatest_relabelAll_extend derived numbered entries clear
  constructor
  · intro same s latest
    have found : (c.keywordsFirst entries clear w).find? (w.stepKey s.head) =
        some (s.relabel w) :=
      (derivedUnder_keywordsFirst c entries clear w).find?_eq_some_iff.mpr
        ⟨(mem_values_keywordsFirst numbered v).mpr ⟨s, latest, rfl⟩, rfl⟩
    have shown := same (w.stepKey s.head)
    rw [found] at shown
    obtain ⟨u, u_found, u_shown⟩ := Option.map_eq_some_iff.mp shown.symm
    have u_mem := ((derivedUnder_stepsFirst c entries clear v w).find?_eq_some_iff.mp u_found).1
    obtain ⟨t, t_latest, rfl⟩ := (mem_values_stepsFirst derived numbered first.mem_iff).mp u_mem
    -- The step that the other order shows has the same phrase, so it is a rival of `s` under
    -- both vocabularies.
    have head : t.head = s.head := congrArg Prod.fst u_shown
    have t_kept := (first.mem_iff t).mp t_latest.1
    have le : t.order ≤ s.order := latest.2 t t_kept.1 (by rw [head])
    refine ⟨latest.1, fun x x_mem x_key => ?_⟩
    exact (t_kept.2 x x_mem (by rw [x_key, head])).trans le
  · intro noneLost key
    rw [find?_keywordsFirst derived numbered noneLost]

end Both

end Catalog

namespace Context

variable {c keyed loaded : Context} {keywordPayload stepPayload : Text} {clear : Bool}

/-- Keywords and steps commute exactly if no step is lost under the old keywords. -/
theorem Reachable.sameSteps_iff (reachable : c.Reachable) (phrases : List Text)
    (entries : List StepEntry) (clear : Bool) :
    ((c.apply (.keywords phrases)).apply (.steps entries clear)).catalog.SameSteps
        ((c.apply (.steps entries clear)).apply (.keywords phrases)).catalog ↔
      Catalog.NoneLost c.vocabulary (c.vocabulary.withKeywords (phrases ++ c.builtinKeywords))
        (c.catalog.offered entries clear c.vocabulary) := by
  obtain ⟨builtin, history, sound⟩ := reachable.exists_sound
  exact Catalog.sameSteps_iff sound.catalog sound.numbered

/-- **Load order.** Keywords and steps that are accepted are accepted in either order. Both orders
leave the same catalog exactly if no step that is the latest of its key under the new keywords is
replaced under the old ones. So it is if steps that share a key under the old keywords share one
under the new; then even the numbers of the steps agree. -/
theorem loadOrder_irrelevant_iff (reachable : c.Reachable)
    (set : c.setKeywords keywordPayload = .ok keyed)
    (load : c.setStepList stepPayload clear = .ok loaded) :
    ∃ entries keysThenSteps stepsThenKeys,
      readPayload .stepList (Json.Decoder.list StepEntry.decoder) stepPayload = .ok entries ∧
      keyed.setStepList stepPayload clear = .ok keysThenSteps ∧
      loaded.setKeywords keywordPayload = .ok stepsThenKeys ∧
      (keysThenSteps.catalog.SameSteps stepsThenKeys.catalog ↔
        Catalog.NoneLost c.vocabulary keyed.vocabulary
          (c.catalog.offered entries clear c.vocabulary)) ∧
      ((∀ s ∈ c.catalog.offered entries clear c.vocabulary,
          ∀ t ∈ c.catalog.offered entries clear c.vocabulary,
          c.vocabulary.stepKey s.head = c.vocabulary.stepKey t.head →
            keyed.vocabulary.stepKey s.head = keyed.vocabulary.stepKey t.head) →
        ∀ key, keysThenSteps.catalog.find? key = stepsThenKeys.catalog.find? key) := by
  obtain ⟨builtin, history, sound⟩ := reachable.exists_sound
  obtain ⟨phrases, keywords_read, changed⟩ := Failure.bind_eq_ok set
  cases changed
  obtain ⟨entries, entries_read, changed⟩ := Failure.bind_eq_ok load
  cases changed
  -- What is read from a payload does not depend on the context that reads it.
  have keywords_call : (Call.setKeywords keywordPayload).read = .ok (.keywords phrases) :=
    congrArg (Except.map Change.keywords) keywords_read
  have steps_call : (Call.setStepList stepPayload clear).read = .ok (.steps entries clear) :=
    congrArg (Except.map (Change.steps · clear)) entries_read
  refine ⟨entries, _, _, entries_read, answer_of_read_eq_ok steps_call,
    answer_of_read_eq_ok keywords_call, reachable.sameSteps_iff phrases entries clear, ?_⟩
  intro together
  exact Catalog.find?_keywordsFirst sound.catalog sound.numbered
    (Catalog.noneLost_of_together together)

/-- Two steps that differ in their first words. -/
def givenAndWhen : Text :=
  "[\x7b\"insertText\":\"Given x\"\x7d,\x7b\"insertText\":\"When x\"\x7d]".toList

/-- The entries of the two steps. -/
def givenAndWhenEntries : List StepEntry :=
  [⟨"Given x".toList, [], [], [], 0, []⟩, ⟨"When x".toList, [], [], [], 0, []⟩]

/-- A context in which the first words of both steps are keywords. -/
def withBothKeywords : Context :=
  (ofKeywords ["if".toList]).apply (.keywords ["given".toList, "when".toList])

/-- A context comes to have both keywords by one call. -/
theorem reachable_withBothKeywords : withBothKeywords.Reachable := by
  refine ⟨_, _, [], [.setKeywords "[\"given\",\"when\"]".toList], .new ["if".toList], ?_⟩
  have change : ([.setKeywords "[\"given\",\"when\"]".toList] : List Call).filterMap
      Call.change? = [.keywords ["given".toList, "when".toList]] := rfl
  rw [run_eq_foldl_apply, change]
  rfl

/-- Its table has both of them, and the one that is built in. -/
theorem vocabulary_withBothKeywords : withBothKeywords.vocabulary =
    ⟨[["given".toList], ["when".toList], ["if".toList]], .empty, .empty, []⟩ := by
  have table : Vocabulary.keywordTable ["given".toList, "when".toList, "if".toList] =
      [["given".toList], ["when".toList], ["if".toList]] :=
    Vocabulary.keywordTable_of_pairwise (by decide +kernel) (by decide +kernel)
  rw [← table]
  rfl

/-- The payload of the steps is accepted. -/
theorem read_givenAndWhen : (Call.setStepList givenAndWhen true).read =
    .ok (.steps givenAndWhenEntries true) := rfl

/-- A further keyword, with which neither step begins, may come before or after the two steps. -/
theorem loadOrder_irrelevant_iff_furtherKeyword :
    ∃ keyed loaded keysThenSteps stepsThenKeys : Context,
      withBothKeywords.Reachable ∧
      withBothKeywords.setKeywords "[\"given\",\"when\",\"then\"]".toList = .ok keyed ∧
      withBothKeywords.setStepList givenAndWhen true = .ok loaded ∧
      keyed.setStepList givenAndWhen true = .ok keysThenSteps ∧
      loaded.setKeywords "[\"given\",\"when\",\"then\"]".toList = .ok stepsThenKeys ∧
      ∀ key, keysThenSteps.catalog.find? key = stepsThenKeys.catalog.find? key := by
  have keywords_read : (Call.setKeywords "[\"given\",\"when\",\"then\"]".toList).read =
      .ok (.keywords ["given".toList, "when".toList, "then".toList]) := by decide +kernel
  have set : withBothKeywords.answer (.setKeywords _) = .ok _ := answer_of_read_eq_ok keywords_read
  have load : withBothKeywords.answer (.setStepList _ _) = .ok _ :=
    answer_of_read_eq_ok read_givenAndWhen
  obtain ⟨entries, keysThenSteps, stepsThenKeys, read, first, second, -, same⟩ :=
    loadOrder_irrelevant_iff reachable_withBothKeywords set load
  refine ⟨_, _, _, _, reachable_withBothKeywords, set, load, first, second, same ?_⟩
  have entries_eq : entries = givenAndWhenEntries := by
    have both := read_givenAndWhen
    rw [Call.read, read] at both
    injection both with both
    injection both
  have table : Vocabulary.keywordTable
      ["given".toList, "when".toList, "then".toList, "if".toList] =
      [["given".toList], ["when".toList], ["then".toList], ["if".toList]] :=
    Vocabulary.keywordTable_of_pairwise (by decide +kernel) (by decide +kernel)
  have keyed : (withBothKeywords.apply
      (.keywords ["given".toList, "when".toList, "then".toList])).vocabulary =
      ⟨[["given".toList], ["when".toList], ["then".toList], ["if".toList]], .empty, .empty, []⟩ := by
    rw [← table]
    rfl
  have offered : withBothKeywords.catalog.offered givenAndWhenEntries true
      withBothKeywords.vocabulary =
      Catalog.newSteps 0 givenAndWhenEntries withBothKeywords.vocabulary := rfl
  rw [entries_eq, offered, keyed, vocabulary_withBothKeywords]
  decide +kernel

/-- **The order may matter.** If `given` and `when` are keywords, two steps that differ only in these
words are one step. Taking the keywords away afterwards does not bring the first of them back,
whereas both are there if the keywords are taken away first. -/
theorem loadOrder_matters :
    ∃ keyed loaded keysThenSteps stepsThenKeys : Context,
      withBothKeywords.Reachable ∧
      withBothKeywords.setKeywords "[]".toList = .ok keyed ∧
      withBothKeywords.setStepList givenAndWhen true = .ok loaded ∧
      keyed.setStepList givenAndWhen true = .ok keysThenSteps ∧
      loaded.setKeywords "[]".toList = .ok stepsThenKeys ∧
      ¬ keysThenSteps.catalog.SameSteps stepsThenKeys.catalog := by
  have keywords_read : (Call.setKeywords "[]".toList).read = .ok (.keywords []) := by
    decide +kernel
  refine ⟨_, _, _, _, reachable_withBothKeywords, answer_of_read_eq_ok keywords_read,
    answer_of_read_eq_ok read_givenAndWhen, answer_of_read_eq_ok read_givenAndWhen,
    answer_of_read_eq_ok keywords_read, fun same => ?_⟩
  have noneLost :=
    (reachable_withBothKeywords.sameSteps_iff [] givenAndWhenEntries true).mp same
  change Catalog.NoneLost withBothKeywords.vocabulary
    (withBothKeywords.vocabulary.withKeywords ["if".toList])
    (Catalog.newSteps 0 givenAndWhenEntries withBothKeywords.vocabulary) at noneLost
  rw [vocabulary_withBothKeywords] at noneLost
  -- The first step is replaced by the second one, which is none of its rivals without keywords.
  exact absurd (noneLost (Step.relabel
    ⟨["Given".toList, "x".toList], [], [], "Given x".toList, [], [], 0, 1, [], [], [], []⟩
    ⟨[["given".toList], ["when".toList], ["if".toList]], .empty, .empty, []⟩)
    (by decide +kernel)) (by decide +kernel)

end Context

end StepScript
