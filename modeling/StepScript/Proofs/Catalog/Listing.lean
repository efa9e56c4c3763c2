import Mathlib
import StepScript.Proofs.Catalog.Suggestions
import StepScript.Proofs.Context.Coherence
import StepScript.Proofs.Text.Bytes
import StepScript.Report

/-!
# The listing of steps by section

**Two sorts.** The steps of a catalog come out of a table in no order that means anything. They are
sorted by sort text, label and key, and then once more by section. The second sort is stable, so what
ties in it stays in the order of the first one (`pairwise_mergeSort_stable`), and two steps of a
catalog never tie in that, since their keys differ. So the listing is strictly ordered by section,
sort text, label and key (`Step.pairwise_bySection`), and there is only one such list of these steps
(`Step.bySection_eq_of_perm`).

**Headings.** A heading is written in front of each step whose section is not that of the step before
it (`Report.sectionsFrom`). In a list that is ordered by section, the steps of a section follow each
other, and so each section gets one heading with all its steps behind it (`Report.stepItems_eq`).

**Texts.** The heading of a section and the entry of a step are spelled out (`Report.sectionHeading_eq`,
`Report.stepItem_eq`), so that the listing is compared with what its reader sees.
-/

namespace StepScript

/-- Texts are in order if the first one comes before the second one or is the same. -/
theorem Text.isLE_compare_iff {s t : Text} : (compare s t).isLE = true ↔ s ≤ t := by
  rw [Ordering.isLE_iff_eq_lt_or_eq_eq, compare_eq_lt_iff, Std.compare_eq_iff_eq, le_iff_lt_or_eq]

namespace Step

/-- The texts by which steps are listed, as bytes: section, sort text, label and key. -/
def listingKey (s : Step) : List (List UInt8) :=
  [s.group, s.sortText, s.label, s.key].map Text.bytes

/-- Whether the section of a step does not come after that of another one. -/
def groupLE (a b : Step) : Bool := (compare a.group b.group).isLE

/-- Steps, however they come, in the order of the listing. -/
def bySection (steps : List Step) : List Step := (steps.mergeSort precedes).mergeSort groupLE

variable {a b : Step} {steps : List Step}

/-- Sections are compared as texts. -/
theorem groupLE_iff : a.groupLE b = true ↔ a.group ≤ b.group := Text.isLE_compare_iff

/-- Steps are listed by section, and in a section in the order of the catalog. -/
theorem listingKey_lt_iff : a.listingKey < b.listingKey ↔
    a.group < b.group ∨ a.group = b.group ∧ a.ListedBefore b := by
  simp [listingKey, ListedBefore, List.cons_lt_cons_iff, Text.bytes_lt_bytes_iff,
    Text.bytes_injective.eq_iff]

/-- An entry of the listing as a reader gets it: the keyword of the step in bold, if it has one, and
its label, then its key as code and its documentation, if it has one, each on a line of its own. -/
def entryText (s : Step) : Text :=
  "- ".toList ++
    (if s.keyword = [] then s.label else "**".toList ++ s.keyword ++ "** ".toList ++ s.label) ++
    "\n  - key: `".toList ++ s.key ++ "`\n".toList ++
    if s.documentation = [] then [] else "  - ".toList ++ s.documentation ++ "\n".toList

/-- The listing consists of the steps that it is made from. -/
theorem bySection_perm (steps : List Step) : (bySection steps).Perm steps :=
  (List.mergeSort_perm _ _).trans (List.mergeSort_perm _ _)

/-- **The listing of steps with different keys is strictly ordered.** -/
theorem pairwise_bySection (keys : (steps.map key).Nodup) :
    (bySection steps).Pairwise fun a b => a.listingKey < b.listingKey := by
  have transitive : ∀ a b c : Step, a.groupLE b = true → b.groupLE c = true →
      a.groupLE c = true := by
    simp only [groupLE_iff]
    exact fun _ _ _ => le_trans
  have total : ∀ a b : Step, (a.groupLE b || b.groupLE a) = true := by
    simp only [Bool.or_eq_true, groupLE_iff]
    exact fun _ _ => le_total _ _
  have sorted := pairwise_mergeSort_stable transitive total (pairwise_listedBefore keys)
  refine sorted.imp fun {a b} h => ?_
  rw [groupLE_iff, groupLE_iff] at h
  rw [listingKey_lt_iff]
  rcases h.1.lt_or_eq with before | same
  · exact .inl before
  · exact .inr ⟨same, h.2 same.ge⟩

/-- **The order in which steps come does not matter** to the listing. -/
theorem bySection_eq_of_perm {drained : List Step} (keys : (steps.map key).Nodup)
    (perm : drained.Perm steps) : bySection drained = bySection steps := by
  have drained_keys : (drained.map key).Nodup := (perm.map key).nodup_iff.mpr keys
  have same : (bySection drained).Perm (bySection steps) :=
    ((bySection_perm drained).trans perm).trans (bySection_perm steps).symm
  refine same.eq_of_pairwise (fun a b _ _ lt gt => ?_) (pairwise_bySection drained_keys)
    (pairwise_bySection keys)
  exact absurd gt (List.lt_asymm lt)

end Step

namespace Report

/-! ## Texts -/

/-- The heading of a section is its name on a line of the second level, with a blank line behind it. -/
theorem sectionHeading_eq (g : Text) : sectionHeading g =
    "## ".toList ++ (if g = [] then "(no section)".toList else g) ++ "\n\n".toList := rfl

/-- The items of the steps are the entries of the listing. -/
theorem stepItem_eq : stepItem = Step.entryText := by
  funext s
  simp only [stepItem, Step.entryText, Markdown.item, Markdown.innerItem, Markdown.strong,
    Markdown.plainSpan, Markdown.tick]
  split_ifs <;> simp

/-- A listing starts with a title that has the number of its steps. -/
theorem toMarkdown_steps (listing : List Step) : (Report.steps listing).toMarkdown =
    "# Steps (".toList ++ Text.ofNat listing.length ++ ")\n\n".toList ++
      stepItems none listing := by
  have opened : "# Steps (".toList = "# ".toList ++ "Steps ".toList ++ ['('] := rfl
  have closed : ")\n\n".toList = [')'] ++ "\n\n".toList := rfl
  change Markdown.block (Markdown.title ("Steps ".toList ++ Markdown.count listing.length)) ++
    stepItems none listing = _
  simp only [Markdown.block, Markdown.title, Markdown.count, opened, closed, List.append_assoc]

/-! ## Headings -/

/-- The sections whose headings are written into a list of steps, behind a step of the section
`previous` if there is one. -/
def sectionsFrom (previous : Option Text) : List Step → List Text
  | [] => []
  | s :: rest =>
    if previous = some s.group then sectionsFrom previous rest
    else s.group :: sectionsFrom (some s.group) rest

/-- The items of the steps of a section. -/
def itemsOf (steps : List Step) (group : Text) : Text :=
  (steps.filter (·.group = group)).flatMap stepItem

/-- A section: its heading and the items of its steps. -/
def sectionText (steps : List Step) (group : Text) : Text :=
  sectionHeading group ++ itemsOf steps group

/-- The steps come by section, and none before the section `previous`. -/
def Grouped (previous : Option Text) (steps : List Step) : Prop :=
  (previous.toList ++ steps.map Step.group).Pairwise (· ≤ ·)

variable {previous : Option Text} {s : Step} {rest steps : List Step} {g : Text}

/-- Behind the first step, none comes before its section. -/
theorem Grouped.tail (grouped : Grouped previous (s :: rest)) : Grouped (some s.group) rest :=
  grouped.sublist (List.sublist_append_right _ _)

/-- No step comes before the first one, by section. -/
theorem Grouped.le_group (grouped : Grouped previous (s :: rest)) {t : Step} (mem : t ∈ rest) :
    s.group ≤ t.group :=
  (List.pairwise_cons.mp grouped.tail).1 t.group (List.mem_map_of_mem mem)

/-- If the first step is not of the section before, then no step is. -/
theorem Grouped.previous_ne (grouped : Grouped previous (s :: rest))
    (other : previous ≠ some s.group) {t : Step} (mem : t ∈ s :: rest) :
    previous ≠ some t.group := by
  rintro rfl
  have least : t.group ≤ s.group := (List.pairwise_cons.mp grouped).1 _ List.mem_cons_self
  rcases List.mem_cons.mp mem with rfl | mem_rest
  · exact other rfl
  · exact other (congrArg some (le_antisymm least (grouped.le_group mem_rest)))

/-- In a list that is ordered by section, the headings are those of its sections, apart from that of
the step before it. -/
theorem mem_sectionsFrom (grouped : Grouped previous steps) :
    g ∈ sectionsFrom previous steps ↔ previous ≠ some g ∧ ∃ s ∈ steps, s.group = g := by
  induction steps generalizing previous with
  | nil => simp [sectionsFrom]
  | cons s rest ih =>
    have later := ih grouped.tail
    rw [ne_eq, Option.some.injEq] at later
    rw [sectionsFrom]
    split_ifs with same
    · subst same
      rw [later]
      simp +contextual
    · rw [List.mem_cons, later]
      constructor
      · rintro (rfl | ⟨-, t, mem, rfl⟩)
        · exact ⟨same, s, List.mem_cons_self, rfl⟩
        · have mem_all := List.mem_cons_of_mem s mem
          exact ⟨grouped.previous_ne same mem_all, t, mem_all, rfl⟩
      · rintro ⟨-, t, mem, rfl⟩
        rcases List.mem_cons.mp mem with rfl | mem_rest
        · exact .inl rfl
        · by_cases own : t.group = s.group
          · exact .inl own
          · exact .inr ⟨Ne.symm own, t, mem_rest, rfl⟩

/-- The headings ascend. -/
theorem pairwise_sectionsFrom (grouped : Grouped previous steps) :
    (sectionsFrom previous steps).Pairwise (· < ·) := by
  induction steps generalizing previous with
  | nil => exact .nil
  | cons s rest ih =>
    rw [sectionsFrom]
    split_ifs with same
    · rw [same]
      exact ih grouped.tail
    · refine List.pairwise_cons.mpr ⟨fun g mem => ?_, ih grouped.tail⟩
      obtain ⟨other, t, mem_rest, rfl⟩ := (mem_sectionsFrom grouped.tail).mp mem
      exact lt_of_le_of_ne (grouped.le_group mem_rest) fun own => other (congrArg some own)

/-- A step is among the items of its own section. -/
theorem itemsOf_cons_self (s : Step) (rest : List Step) :
    itemsOf (s :: rest) s.group = stepItem s ++ itemsOf rest s.group := by
  rw [itemsOf, List.filter_cons_of_pos (by simp), List.flatMap_cons, itemsOf]

/-- A step is not among the items of another section. -/
theorem itemsOf_cons_of_ne (other : s.group ≠ g) : itemsOf (s :: rest) g = itemsOf rest g := by
  rw [itemsOf, List.filter_cons_of_neg (by simpa using other), itemsOf]

/-- **Each section has one heading with all its steps behind it**, if the steps come by section.
First come the steps that still belong to the section before. -/
theorem stepItems_eq (grouped : Grouped previous steps) :
    stepItems previous steps =
      previous.toList.flatMap (itemsOf steps) ++
        (sectionsFrom previous steps).flatMap (sectionText steps) := by
  induction steps generalizing previous with
  | nil => cases previous <;> rfl
  | cons s rest ih =>
    have later := ih grouped.tail
    have others : (sectionsFrom (some s.group) rest).flatMap (sectionText (s :: rest)) =
        (sectionsFrom (some s.group) rest).flatMap (sectionText rest) := by
      refine List.flatMap_congr fun g mem => ?_
      have other := ((mem_sectionsFrom grouped.tail).mp mem).1
      rw [sectionText, itemsOf_cons_of_ne fun own => other (congrArg some own), sectionText]
    rw [Option.toList_some, List.flatMap_singleton] at later
    rw [stepItems, sectionsFrom]
    split_ifs with same
    · rw [same, later, Option.toList_some, List.flatMap_singleton, itemsOf_cons_self, others,
        List.nil_append, List.append_assoc]
    · have none_before : previous.toList.flatMap (itemsOf (s :: rest)) = [] := by
        refine List.flatMap_eq_nil_iff.mpr fun g mem => ?_
        have none_left : (s :: rest).filter (·.group = g) = [] := by
          refine List.filter_eq_nil_iff.mpr fun t t_mem own => ?_
          refine grouped.previous_ne same t_mem ?_
          rw [Option.mem_toList.mp mem, of_decide_eq_true own]
        rw [itemsOf, none_left, List.flatMap_nil]
      rw [none_before, later, List.flatMap_cons, others, sectionText, itemsOf_cons_self]
      simp only [List.nil_append, List.append_assoc]

end Report

/-- A derived step has the key of its phrase. -/
theorem Catalog.DerivedUnder.key_eq {c : Catalog} {v : Vocabulary} {s : Step}
    (derived : c.DerivedUnder v) (mem : s ∈ c.steps.values) : s.key = v.stepKey s.head := by
  rw [← derived.relabel_eq mem, Step.key_relabel]
  rfl

namespace Context

/-- **The listing of steps is complete, ordered and grouped.** In a reachable context, the listing
consists of the steps of the catalog, each once and found under its own key. It is strictly ordered by
the bytes of section, sort text, label and key, in whatever order the table hands out its steps. As
Markdown, it is a title with the number of steps and then, for each section in ascending order, one
heading of the second level with the entries of exactly the steps of that section behind it. The heading
is the name of the section, or says that there is none. -/
theorem listing_by_section {c : Context} (reachable : c.Reachable) :
    let listing := c.catalog.listing
    listing.Perm c.catalog.steps.values ∧
      (∀ key s, c.catalog.find? key = some s ↔ s ∈ listing ∧ s.key = key) ∧
      listing.Pairwise (fun a b => a.listingKey < b.listingKey) ∧
      (∀ drained : List Step, drained.Perm c.catalog.steps.values →
        Step.bySection drained = listing) ∧
      ∃ sections : List Text, sections.Pairwise (fun g h => g.bytes < h.bytes) ∧
        (∀ g, g ∈ sections ↔ ∃ s ∈ c.catalog.steps.values, s.group = g) ∧
        (Report.steps listing).toMarkdown =
          "# Steps (".toList ++ Text.ofNat listing.length ++ ")\n\n".toList ++
            sections.flatMap fun g =>
              "## ".toList ++ (if g = [] then "(no section)".toList else g) ++ "\n\n".toList ++
                (listing.filter (·.group = g)).flatMap Step.entryText := by
  intro listing
  obtain ⟨builtin, history, sound⟩ := reachable.exists_sound
  have derived := sound.catalog
  have keys := derived.nodup_keys
  have listed : listing = Step.bySection c.catalog.steps.values := rfl
  have perm : listing.Perm c.catalog.steps.values := Step.bySection_perm _
  have ordered : listing.Pairwise fun a b => a.listingKey < b.listingKey :=
    Step.pairwise_bySection keys
  have grouped : Report.Grouped none listing := by
    refine List.pairwise_map.mpr (ordered.imp fun {a b} lt => ?_)
    rcases Step.listingKey_lt_iff.mp lt with before | ⟨same, -⟩
    · exact before.le
    · exact same.le
  refine ⟨perm, fun key s => ?_, ordered, fun drained => Step.bySection_eq_of_perm keys,
    Report.sectionsFrom none listing, ?_, fun g => ?_, ?_⟩
  · rw [perm.mem_iff, derived.find?_eq_some_iff]
    exact and_congr_right fun mem => by rw [derived.key_eq mem]
  · exact (Report.pairwise_sectionsFrom grouped).imp Text.bytes_lt_bytes
  · rw [Report.mem_sectionsFrom grouped]
    simp [perm.mem_iff]
  · have items := Report.stepItems_eq grouped
    rw [Option.toList_none, List.flatMap_nil, List.nil_append] at items
    rw [Report.toMarkdown_steps, items]
    refine congrArg (_ ++ ·) (List.flatMap_congr fun g _ => ?_)
    rw [Report.sectionText, Report.sectionHeading_eq, Report.itemsOf, Report.stepItem_eq]

/-- Steps of two sections, and one without a section. -/
def sectionedEntries : List StepEntry :=
  [⟨"Given b".toList, [], "2".toList, [], 0, "Zoo".toList⟩,
    ⟨"Given é".toList, [], [], [], 0, "Élan".toList⟩,
    ⟨"Given a".toList, [], "2".toList, [], 0, "Zoo".toList⟩,
    ⟨"c".toList, [], "1".toList, "Counts.".toList, 0, "Zoo".toList⟩,
    ⟨"d".toList, [], [], [], 0, []⟩]

/-- The call that loads them. -/
def sectionedCall : Call := .setStepList
  ("[\x7b\"insertText\":\"Given b\",\"sortText\":\"2\",\"section\":\"Zoo\"\x7d,".toList ++
    "\x7b\"insertText\":\"Given é\",\"section\":\"Élan\"\x7d,".toList ++
    "\x7b\"insertText\":\"Given a\",\"sortText\":\"2\",\"section\":\"Zoo\"\x7d,".toList ++
    "\x7b\"insertText\":\"c\",\"sortText\":\"1\",\"documentation\":\"Counts.\",".toList ++
    "\"section\":\"Zoo\"\x7d,".toList ++
    "\x7b\"insertText\":\"d\"\x7d]".toList) true

/-- A context with these steps. -/
def sectioned : Context := (ofKeywords ["given".toList]).apply (.steps sectionedEntries true)

/-- A context comes to have these steps by one call. -/
theorem reachable_sectioned : sectioned.Reachable := by
  refine ⟨_, _, [], [sectionedCall], .new ["given".toList], ?_⟩
  have change : [sectionedCall].filterMap Call.change? = [.steps sectionedEntries true] := by
    decide +kernel
  rw [run_eq_foldl_apply, change]
  rfl

/-- The table has the steps in the order in which they were loaded. -/
theorem values_sectioned : sectioned.catalog.steps.values =
    Catalog.newSteps 0 sectionedEntries sectioned.vocabulary := by
  have loaded : (Catalog.empty.extend sectionedEntries true sectioned.vocabulary).inLoadOrder =
      (Catalog.empty.extend sectionedEntries true sectioned.vocabulary).steps.values :=
    List.mergeSort_of_pairwise (by decide +kernel)
  have derived : sectioned.catalog =
      (Catalog.empty.extend sectionedEntries true sectioned.vocabulary).relabelAll
        sectioned.vocabulary := rfl
  rw [derived, Catalog.relabelAll, loaded]
  decide +kernel

/-- The steps come without a section first, then by the bytes of the section, and in a section by sort
text and label. Each section has its heading. -/
theorem listing_by_section_sectioned :
    sectioned.Reachable ∧
      sectioned.catalog.listing.map Step.label =
        ["d".toList, "c".toList, "a".toList, "b".toList, "é".toList] ∧
      (Report.steps sectioned.catalog.listing).toMarkdown =
        "# Steps (5)\n\n## (no section)\n\n- d\n  - key: `d`\n".toList ++
          "## Zoo\n\n- c\n  - key: `c`\n  - Counts.\n- **given** a\n  - key: `a`\n".toList ++
          "- **given** b\n  - key: `b`\n## Élan\n\n- **given** é\n  - key: `é`\n".toList := by
  obtain ⟨perm, -, ordered, -, sections, ascending, mem_sections, markdown⟩ :=
    listing_by_section reachable_sectioned
  let loaded := Catalog.newSteps 0 sectionedEntries sectioned.vocabulary
  rw [values_sectioned] at perm mem_sections
  have expected : sectioned.catalog.listing = [4, 3, 2, 0, 1].filterMap (loaded[·]?) := by
    refine List.Perm.eq_of_pairwise (fun a b _ _ lt gt => absurd gt (List.lt_asymm lt)) ordered
      (by decide +kernel) (perm.trans ?_)
    decide +kernel
  have groups : loaded.map Step.group =
      ["Zoo".toList, "Élan".toList, "Zoo".toList, "Zoo".toList, []] := by
    decide +kernel
  have headings : sections = [[], "Zoo".toList, "Élan".toList] := by
    have names : [[], "Zoo".toList, "Élan".toList].Pairwise fun g h : Text => g < h := by
      decide
    refine (ascending.imp Text.bytes_lt_bytes_iff.mp).eq_of_mem_iff names fun g => ?_
    rw [mem_sections, ← List.mem_map, groups]
    simp only [List.mem_cons, List.not_mem_nil, or_false]
    tauto
  rw [markdown, headings, expected]
  refine ⟨reachable_sectioned, ?_⟩
  decide +kernel

end Context

end StepScript
