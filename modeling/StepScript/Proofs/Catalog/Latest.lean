import Mathlib
import StepScript.Catalog

/-!
# A catalog keeps the latest step of each key

**The latest step.** Of the steps that share a key under a vocabulary, the one with the greatest
number was loaded last (`Step.IsLatest`). Which steps these are depends on the steps and on the
vocabulary only, not on the way in which the steps came together.

**What the operations keep.** Loading entries keeps the latest among the steps that were there and
those that the entries make (`Catalog.keepsLatest_extend`), and deriving a catalog anew keeps the
latest under the new vocabulary (`Catalog.mem_values_relabelAll`). Both need that no two steps have
one number (`Catalog.Numbered`), and both leave a catalog whose steps are stored under their keys
and derived under the vocabulary (`Catalog.DerivedUnder`).

**Stages.** Steps that fall away at one stage do not matter at the next, as long as the key stays
the same: among what was kept and what is added, the latest steps are those among all
(`Step.isLatest_append`). Under another vocabulary this fails, since a step that fell away may have
had no rival there.
-/

namespace StepScript

namespace Step

/-- Of the given steps that have the key of `s` under a vocabulary, `s` was loaded last. -/
def IsLatest (v : Vocabulary) (steps : List Step) (s : Step) : Prop :=
  s ∈ steps ∧ ∀ t ∈ steps, v.stepKey t.head = v.stepKey s.head → t.order ≤ s.order

/-- Which step of a list is the latest one can be computed. -/
instance (v : Vocabulary) (steps : List Step) (s : Step) : Decidable (IsLatest v steps s) :=
  inferInstanceAs (Decidable (s ∈ steps ∧ ∀ t ∈ steps, _ → _))

/-- No two steps have one number. -/
def Numbered (steps : List Step) : Prop := ∀ s ∈ steps, ∀ t ∈ steps, s.order = t.order → s = t

variable {v w : Vocabulary} {steps : List Step} {s t : Step}

/-- Of the steps with the key of a given one, some step was loaded last. -/
theorem exists_isLatest (v : Vocabulary) (mem : t ∈ steps) :
    ∃ s, IsLatest v steps s ∧ v.stepKey s.head = v.stepKey t.head ∧ t.order ≤ s.order := by
  classical
  set rivals := (steps.filter fun s => v.stepKey s.head = v.stepKey t.head).toFinset
  have mem_rivals : ∀ s, s ∈ rivals ↔ s ∈ steps ∧ v.stepKey s.head = v.stepKey t.head := by
    simp [rivals]
  have here : t ∈ rivals := (mem_rivals t).mpr ⟨mem, rfl⟩
  obtain ⟨s, s_mem, greatest⟩ := rivals.exists_max_image Step.order ⟨t, here⟩
  obtain ⟨s_mem, s_key⟩ := (mem_rivals s).mp s_mem
  refine ⟨s, ⟨s_mem, fun u u_mem u_key => ?_⟩, s_key, greatest t here⟩
  exact greatest u ((mem_rivals u).mpr ⟨u_mem, u_key.trans s_key⟩)

/-- Which steps are the latest does not depend on the order in which they are listed. -/
theorem isLatest_congr {others : List Step} (same : ∀ s, s ∈ steps ↔ s ∈ others) :
    IsLatest v steps s ↔ IsLatest v others s := by
  simp only [IsLatest, same]

/-- Deriving steps anew does not change which are the latest. -/
theorem isLatest_map_relabel {u : Step} :
    IsLatest v (steps.map (·.relabel w)) u ↔ ∃ s, IsLatest v steps s ∧ s.relabel w = u := by
  constructor
  · rintro ⟨mem, last⟩
    obtain ⟨s, s_mem, rfl⟩ := List.mem_map.mp mem
    refine ⟨s, ⟨s_mem, fun t t_mem t_key => ?_⟩, rfl⟩
    exact last (t.relabel w) (List.mem_map_of_mem t_mem) t_key
  · rintro ⟨s, ⟨s_mem, last⟩, rfl⟩
    refine ⟨List.mem_map_of_mem s_mem, fun u u_mem u_key => ?_⟩
    obtain ⟨t, t_mem, rfl⟩ := List.mem_map.mp u_mem
    exact last t t_mem u_key

/-- **Merging in stages.** Steps that are not the latest of their key can be dropped before others
are added. -/
theorem isLatest_append {kept : List Step} (kept_iff : ∀ s, s ∈ kept ↔ IsLatest v steps s)
    (more : List Step) : IsLatest v (kept ++ more) s ↔ IsLatest v (steps ++ more) s := by
  constructor
  · rintro ⟨mem, last⟩
    refine ⟨?_, fun t t_mem t_key => ?_⟩
    · rw [List.mem_append] at mem ⊢
      exact mem.imp_left fun h => ((kept_iff s).mp h).1
    · rcases List.mem_append.mp t_mem with old | new
      · -- A dropped step has a later rival that was kept.
        obtain ⟨u, latest, u_key, le⟩ := exists_isLatest v old
        have u_mem : u ∈ kept ++ more := List.mem_append_left _ ((kept_iff u).mpr latest)
        exact le.trans (last u u_mem (u_key.trans t_key))
      · exact last t (List.mem_append_right _ new) t_key
  · rintro ⟨mem, last⟩
    refine ⟨?_, fun t t_mem t_key => ?_⟩
    · rw [List.mem_append] at mem ⊢
      refine mem.imp_left fun old => (kept_iff s).mpr ⟨old, fun t t_mem t_key => ?_⟩
      exact last t (List.mem_append_left _ t_mem) t_key
    · rw [List.mem_append] at t_mem
      refine last t (List.mem_append.mpr ?_) t_key
      exact t_mem.imp_left fun h => ((kept_iff t).mp h).1

/-- Of steps in the order of their numbers, the last one with a property is the one with the
greatest number. -/
theorem getLast?_filter_eq_some_iff {p : Step → Bool} (numbered : Numbered steps)
    (ascending : steps.Pairwise fun s t => s.order ≤ t.order) :
    (steps.filter p).getLast? = some s ↔
      s ∈ steps ∧ p s = true ∧ ∀ t ∈ steps, p t = true → t.order ≤ s.order := by
  have last_is_greatest : ∀ s, (steps.filter p).getLast? = some s →
      s ∈ steps ∧ p s = true ∧ ∀ t ∈ steps, p t = true → t.order ≤ s.order := by
    intro s last
    obtain ⟨front, split⟩ := List.getLast?_eq_some_iff.mp last
    have mem : s ∈ steps.filter p := split ▸ List.mem_append_right _ (List.mem_singleton_self s)
    have sorted := ascending.filter p
    rw [split, List.pairwise_append] at sorted
    refine ⟨(List.mem_filter.mp mem).1, (List.mem_filter.mp mem).2, fun t t_mem pt => ?_⟩
    have t_mem : t ∈ front ++ [s] := split ▸ List.mem_filter.mpr ⟨t_mem, pt⟩
    rcases List.mem_append.mp t_mem with before | here
    · exact sorted.2.2 t before s (List.mem_singleton_self s)
    · rw [List.mem_singleton.mp here]
  constructor
  · exact last_is_greatest s
  · rintro ⟨mem, ps, greatest⟩
    have some_last : steps.filter p ≠ [] := List.ne_nil_of_mem (List.mem_filter.mpr ⟨mem, ps⟩)
    have last := List.getLast?_eq_some_getLast some_last
    obtain ⟨t_mem, pt, le⟩ := last_is_greatest _ last
    rw [last, numbered _ t_mem s mem (le_antisymm (greatest _ t_mem pt) (le s mem ps))]

/-- Of steps in the order of their numbers, the last one with a key is the latest. -/
theorem getLast?_filter_key_eq_some_iff {key : Text} (numbered : Numbered steps)
    (ascending : steps.Pairwise fun s t => s.order ≤ t.order) :
    (steps.filter (v.stepKey ·.head == key)).getLast? = some s ↔
      IsLatest v steps s ∧ v.stepKey s.head = key := by
  rw [getLast?_filter_eq_some_iff numbered ascending]
  simp only [beq_iff_eq, IsLatest]
  constructor
  · rintro ⟨mem, rfl, last⟩
    exact ⟨⟨mem, last⟩, rfl⟩
  · rintro ⟨⟨mem, last⟩, rfl⟩
    exact ⟨mem, rfl, last⟩

/-- Steps sorted by their numbers. -/
theorem pairwise_mergeSort_order (steps : List Step) :
    (steps.mergeSort fun a b => a.order ≤ b.order).Pairwise fun s t => s.order ≤ t.order :=
  List.pairwise_mergeSort' (Order.Preimage Step.order (· ≤ ·)) steps

end Step

namespace Catalog

/-- Each step is stored under its key under a vocabulary, and all of it is derived under that
vocabulary. -/
def DerivedUnder (v : Vocabulary) (c : Catalog) : Prop :=
  ∀ key s, c.find? key = some s → key = v.stepKey s.head ∧ s.relabel v = s

/-- The steps have different numbers, none beyond the number of entries loaded so far. -/
structure Numbered (c : Catalog) : Prop where
  le_loaded : ∀ s ∈ c.steps.values, s.order ≤ c.loaded
  distinct : Step.Numbered c.steps.values

/-- A catalog that has come from the given steps under a vocabulary: it is derived and numbered, and
it has the latest of them. -/
structure KeepsLatest (v : Vocabulary) (steps : List Step) (c : Catalog) : Prop where
  derived : c.DerivedUnder v
  numbered : c.Numbered
  mem_iff : ∀ s, s ∈ c.steps.values ↔ Step.IsLatest v steps s

/-- The steps that entries make, numbered from the one after `loaded`. -/
def newSteps (loaded : Nat) (entries : List StepEntry) (v : Vocabulary) : List Step :=
  (entries.zipIdx (loaded + 1)).filterMap fun e => Step.ofEntry? e.1 e.2 v

/-- The steps from which loading entries makes a catalog: those that are there, unless they are
dropped first, and then those that the entries make. -/
def offered (c : Catalog) (entries : List StepEntry) (clear : Bool) (v : Vocabulary) : List Step :=
  (if clear then [] else c.steps.values) ++ newSteps c.loaded entries v

variable {v w : Vocabulary} {c : Catalog} {s u : Step} {key : Text}

/-! ## Catalogs that are derived under a vocabulary -/

/-- A step is found under its key, and under no other. -/
theorem DerivedUnder.find?_eq_some_iff (derived : c.DerivedUnder v) :
    c.find? key = some s ↔ s ∈ c.steps.values ∧ v.stepKey s.head = key := by
  constructor
  · intro found
    exact ⟨Table.mem_values_iff.mpr ⟨key, found⟩, ((derived key s found).1).symm⟩
  · rintro ⟨mem, rfl⟩
    obtain ⟨name, found⟩ := Table.mem_values_iff.mp mem
    rwa [← (derived name s found).1]

/-- Every step is derived. -/
theorem DerivedUnder.relabel_eq (derived : c.DerivedUnder v) (mem : s ∈ c.steps.values) :
    s.relabel v = s := by
  obtain ⟨name, found⟩ := Table.mem_values_iff.mp mem
  exact (derived name s found).2

/-- Every step is the latest of its key, being the only one. -/
theorem DerivedUnder.isLatest_iff (derived : c.DerivedUnder v) :
    Step.IsLatest v c.steps.values s ↔ s ∈ c.steps.values := by
  constructor
  · exact And.left
  · intro mem
    refine ⟨mem, fun t t_mem same => ?_⟩
    have t_found := derived.find?_eq_some_iff.mpr ⟨t_mem, same⟩
    have s_found := derived.find?_eq_some_iff.mpr ⟨mem, rfl⟩
    rw [Option.some.inj (t_found.symm.trans s_found)]

/-- A catalog without steps is derived under every vocabulary. -/
theorem derivedUnder_empty (v : Vocabulary) (loaded : Nat) :
    DerivedUnder v ⟨.empty, loaded⟩ := fun _ _ found => nomatch found

/-- A catalog without steps is numbered, however many were loaded before. -/
theorem numbered_empty (loaded : Nat) : Numbered ⟨.empty, loaded⟩ :=
  ⟨fun _ mem => (List.not_mem_nil mem).elim, fun _ mem => (List.not_mem_nil mem).elim⟩

/-! ## Deriving anew -/

/-- The steps in load order are those of the catalog. -/
theorem mem_inLoadOrder : s ∈ c.inLoadOrder ↔ s ∈ c.steps.values := List.mem_mergeSort

/-- The load order is that of the numbers. -/
theorem pairwise_inLoadOrder (c : Catalog) :
    c.inLoadOrder.Pairwise fun s t => s.order ≤ t.order := Step.pairwise_mergeSort_order _

/-- After deriving anew, a key leads to the last step in load order that has it. -/
theorem find?_relabelAll (c : Catalog) (v : Vocabulary) (key : Text) :
    (c.relabelAll v).find? key =
      ((c.inLoadOrder.filter (v.stepKey ·.head == key)).getLast?).map (·.relabel v) := by
  unfold Catalog.find? relabelAll
  rw [Table.find?_insertAll, Table.find?_empty, Option.or_none, List.map_map, List.filter_map,
    List.getLast?_map, Option.map_map]
  rfl

/-- **Deriving anew stores steps under their keys.** -/
theorem derivedUnder_relabelAll (c : Catalog) (v : Vocabulary) :
    (c.relabelAll v).DerivedUnder v := by
  intro key u found
  rw [find?_relabelAll] at found
  obtain ⟨s, last, rfl⟩ := Option.map_eq_some_iff.mp found
  have has_key := (List.mem_filter.mp (List.mem_of_getLast? last)).2
  exact ⟨(beq_iff_eq.mp has_key).symm, rfl⟩

/-- Of the steps with a key, the last in load order is the latest. -/
theorem getLast?_inLoadOrder_eq_some_iff (numbered : c.Numbered) :
    (c.inLoadOrder.filter (v.stepKey ·.head == key)).getLast? = some s ↔
      Step.IsLatest v c.steps.values s ∧ v.stepKey s.head = key := by
  have numbered : Step.Numbered c.inLoadOrder := by
    simpa only [Step.Numbered, mem_inLoadOrder] using numbered.distinct
  rw [Step.getLast?_filter_key_eq_some_iff numbered c.pairwise_inLoadOrder,
    Step.isLatest_congr fun _ => mem_inLoadOrder]

/-- **Deriving anew keeps the latest steps.** -/
theorem mem_values_relabelAll (numbered : c.Numbered) :
    u ∈ (c.relabelAll v).steps.values ↔
      ∃ s, Step.IsLatest v c.steps.values s ∧ s.relabel v = u := by
  rw [Table.mem_values_iff]
  constructor
  · rintro ⟨key, found⟩
    change (c.relabelAll v).find? key = some u at found
    rw [find?_relabelAll] at found
    obtain ⟨s, last, rfl⟩ := Option.map_eq_some_iff.mp found
    exact ⟨s, ((getLast?_inLoadOrder_eq_some_iff numbered).mp last).1, rfl⟩
  · rintro ⟨s, latest, rfl⟩
    refine ⟨v.stepKey s.head, ?_⟩
    change (c.relabelAll v).find? _ = _
    rw [find?_relabelAll, (getLast?_inLoadOrder_eq_some_iff numbered).mpr ⟨latest, rfl⟩]
    rfl

/-- Deriving anew keeps the numbers. -/
theorem numbered_relabelAll (numbered : c.Numbered) (v : Vocabulary) :
    (c.relabelAll v).Numbered := by
  constructor
  · intro u mem
    obtain ⟨s, latest, rfl⟩ := (mem_values_relabelAll numbered).mp mem
    exact numbered.le_loaded s latest.1
  · intro u u_mem x x_mem same
    obtain ⟨s, s_latest, rfl⟩ := (mem_values_relabelAll numbered).mp u_mem
    obtain ⟨t, t_latest, rfl⟩ := (mem_values_relabelAll numbered).mp x_mem
    rw [numbered.distinct s s_latest.1 t t_latest.1 same]

/-- Deriving anew keeps what holds of steps however they are derived. -/
theorem forall_mem_relabelAll {P : Step → Prop} (numbered : c.Numbered)
    (all : ∀ s ∈ c.steps.values, P s) (kept : ∀ s, P s → P (s.relabel v)) :
    ∀ s ∈ (c.relabelAll v).steps.values, P s := by
  intro u mem
  obtain ⟨s, latest, rfl⟩ := (mem_values_relabelAll numbered).mp mem
  exact kept s (all s latest.1)

/-- A catalog that is derived under a vocabulary loses nothing when it is derived anew under it. -/
theorem DerivedUnder.mem_values_relabelAll (derived : c.DerivedUnder v) (numbered : c.Numbered) :
    s ∈ (c.relabelAll v).steps.values ↔ s ∈ c.steps.values := by
  rw [Catalog.mem_values_relabelAll numbered]
  constructor
  · rintro ⟨t, latest, rfl⟩
    rw [derived.relabel_eq latest.1]
    exact latest.1
  · intro mem
    exact ⟨s, derived.isLatest_iff.mpr mem, derived.relabel_eq mem⟩

/-- Under a vocabulary that gives phrases the same keys, deriving anew leaves every step where it
is. -/
theorem DerivedUnder.find?_relabelAll (derived : c.DerivedUnder v) (numbered : c.Numbered)
    (same : w.stepKey = v.stepKey) (key : Text) :
    (c.relabelAll w).find? key = (c.find? key).map (·.relabel w) := by
  rw [Catalog.find?_relabelAll, same]
  congr 1
  ext s
  rw [getLast?_inLoadOrder_eq_some_iff numbered, derived.isLatest_iff, derived.find?_eq_some_iff]

/-! ## Loading -/

/-- The first entry makes the first new step, if it makes one. -/
theorem newSteps_cons (loaded : Nat) (entry : StepEntry) (entries : List StepEntry)
    (v : Vocabulary) : newSteps loaded (entry :: entries) v =
      (Option.toList <| Step.ofEntry? entry (loaded + 1) v) ++ newSteps (loaded + 1) entries v := by
  rw [newSteps, List.zipIdx_cons, List.filterMap_cons]
  cases Step.ofEntry? entry (loaded + 1) v <;> rfl

/-- Under another vocabulary entries make the same steps, derived anew. -/
theorem newSteps_eq_map_relabel (loaded : Nat) (entries : List StepEntry) (v w : Vocabulary) :
    newSteps loaded entries w = (newSteps loaded entries v).map (·.relabel w) := by
  rw [newSteps, newSteps, List.map_filterMap]
  congr 1
  funext e
  exact Step.ofEntry?_eq_map_relabel e.1 e.2 v w

/-- What is offered was there before, or is made by an entry. -/
theorem mem_offered {entries : List StepEntry} {clear : Bool}
    (mem : s ∈ c.offered entries clear v) :
    s ∈ c.steps.values ∨ ∃ entry order, Step.ofEntry? entry order v = some s := by
  rcases List.mem_append.mp mem with old | new
  · cases clear with
    | true => cases old
    | false => exact .inl old
  · obtain ⟨e, -, made⟩ := List.mem_filterMap.mp new
    exact .inr ⟨e.1, e.2, made⟩

section Insert

variable (derived : c.DerivedUnder v) (numbered : c.Numbered) {new : Step}
  (new_derived : new.relabel v = new) (new_order : new.order = c.loaded + 1)

include new_derived

/-- The key of a derived step. -/
theorem stepKey_head_eq : v.stepKey new.head = new.key := by
  rw [← Step.key_relabel new v, new_derived]

include derived

/-- A step that is stored takes the place of the one with its key. -/
theorem mem_values_insert : s ∈ (c.steps.insert new.key new).values ↔
    s = new ∨ (s ∈ c.steps.values ∧ v.stepKey s.head ≠ new.key) := by
  rw [Table.mem_values_iff]
  simp only [Table.find?_insert]
  constructor
  · rintro ⟨key, found⟩
    split at found
    · exact .inl (Option.some.inj found).symm
    · rename_i other
      obtain ⟨mem, rfl⟩ := derived.find?_eq_some_iff.mp found
      exact .inr ⟨mem, other⟩
  · rintro (rfl | ⟨mem, other⟩)
    · exact ⟨s.key, if_pos rfl⟩
    · have old : c.find? (v.stepKey s.head) = some s := derived.find?_eq_some_iff.mpr ⟨mem, rfl⟩
      exact ⟨v.stepKey s.head, (if_neg other).trans old⟩

/-- Storing a derived step under its key leaves the catalog derived. -/
theorem derivedUnder_insert (loaded : Nat) :
    DerivedUnder v ⟨c.steps.insert new.key new, loaded⟩ := by
  intro key s found
  change (c.steps.insert new.key new).find? key = some s at found
  rw [Table.find?_insert] at found
  split at found
  · rename_i here
    cases found
    exact ⟨here.trans (stepKey_head_eq new_derived).symm, new_derived⟩
  · exact derived key s found

include numbered new_order

/-- **Storing the step with the next number keeps the latest steps.** -/
theorem keepsLatest_insert :
    KeepsLatest v (c.steps.values ++ [new]) ⟨c.steps.insert new.key new, c.loaded + 1⟩ := by
  have new_key := stepKey_head_eq new_derived
  have newer : ∀ s ∈ c.steps.values, s.order < new.order := by
    intro s mem
    have le := numbered.le_loaded s mem
    omega
  refine ⟨derivedUnder_insert derived new_derived _, ⟨fun s mem => ?_, ?_⟩, fun s => ?_⟩
  · rcases (mem_values_insert derived new_derived).mp mem with rfl | ⟨old, -⟩
    · exact new_order.le
    · exact (numbered.le_loaded s old).trans (Nat.le_succ _)
  · intro s s_mem t t_mem same
    rcases (mem_values_insert derived new_derived).mp s_mem with rfl | ⟨s_old, -⟩ <;>
      rcases (mem_values_insert derived new_derived).mp t_mem with rfl | ⟨t_old, -⟩
    · rfl
    · exact absurd same (newer t t_old).ne'
    · exact absurd same (newer s s_old).ne
    · exact numbered.distinct s s_old t t_old same
  · rw [mem_values_insert derived new_derived]
    constructor
    · rintro (rfl | ⟨mem, other⟩)
      · refine ⟨by simp, fun t t_mem _ => ?_⟩
        rcases List.mem_append.mp t_mem with old | here
        · exact (newer t old).le
        · rw [List.mem_singleton.mp here]
      · refine ⟨List.mem_append_left _ mem, fun t t_mem same => ?_⟩
        rcases List.mem_append.mp t_mem with old | here
        · exact (derived.isLatest_iff.mpr mem).2 t old same
        · rw [List.mem_singleton.mp here, new_key] at same
          exact absurd same.symm other
    · rintro ⟨mem, last⟩
      rcases List.mem_append.mp mem with old | here
      · refine .inr ⟨old, fun same => ?_⟩
        have le := last new (by simp) (new_key.trans same.symm)
        exact absurd (newer s old) (not_lt.mpr le)
      · exact .inl (List.mem_singleton.mp here)

end Insert

/-- Every entry counts, also one that makes no step. -/
theorem loaded_load (v : Vocabulary) (c : Catalog) (entry : StepEntry) :
    (load v c entry).loaded = c.loaded + 1 := by
  unfold load
  dsimp only
  split <;> rfl

/-- Loading an entry keeps the latest among the steps of a catalog and that of the entry. -/
theorem keepsLatest_load (derived : c.DerivedUnder v) (numbered : c.Numbered)
    (entry : StepEntry) :
    KeepsLatest v (c.steps.values ++ (Option.toList <| Step.ofEntry? entry (c.loaded + 1) v))
      (load v c entry) := by
  unfold load
  dsimp only
  cases made : Step.ofEntry? entry (c.loaded + 1) v with
  | none =>
    refine ⟨derived, ⟨fun s mem => ?_, numbered.distinct⟩, fun s => ?_⟩
    · exact (numbered.le_loaded s mem).trans (Nat.le_succ _)
    · rw [Option.toList_none, List.append_nil, derived.isLatest_iff]
  | some new =>
    obtain ⟨new_order, new_derived⟩ := Step.of_ofEntry?_eq_some made
    exact keepsLatest_insert derived numbered new_derived new_order

/-- Loading entries in order keeps the latest among the steps of a catalog and theirs. -/
theorem keepsLatest_foldl_load (derived : c.DerivedUnder v) (numbered : c.Numbered)
    (entries : List StepEntry) :
    KeepsLatest v (c.steps.values ++ newSteps c.loaded entries v)
      (entries.foldl (load v) c) := by
  induction entries generalizing c with
  | nil =>
    refine ⟨derived, numbered, fun s => ?_⟩
    change s ∈ c.steps.values ↔ Step.IsLatest v (c.steps.values ++ []) s
    rw [List.append_nil, derived.isLatest_iff]
  | cons entry entries ih =>
    have first := keepsLatest_load derived numbered entry
    have all := ih first.derived first.numbered
    refine ⟨all.derived, all.numbered, fun s => ?_⟩
    rw [List.foldl_cons, all.mem_iff s, loaded_load, newSteps_cons, ← List.append_assoc]
    exact Step.isLatest_append first.mem_iff _

/-- **Loading keeps the latest steps** among those that are offered. -/
theorem keepsLatest_extend (derived : c.DerivedUnder v) (numbered : c.Numbered)
    (entries : List StepEntry) (clear : Bool) :
    KeepsLatest v (c.offered entries clear v) (c.extend entries clear v) := by
  cases clear with
  | true =>
    exact keepsLatest_foldl_load (derivedUnder_empty v c.loaded) (numbered_empty c.loaded) entries
  | false => exact keepsLatest_foldl_load derived numbered entries

end Catalog

end StepScript
