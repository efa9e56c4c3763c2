import StepScript.Text.Basic

/-!
# Tables: values under names

A table holds at most one value under each name; writing a name again replaces its value. That no
name occurs twice is part of the type (`keys_nodup`), so the number of entries is the number of
names. No answer of the program shows the order of the entries: what is listed is sorted first.
-/

namespace StepScript

/-- A finite table from names to values. -/
structure Table (α : Type) where
  /-- The names with their values. -/
  entries : List (Text × α)
  /-- No name occurs twice. -/
  keys_nodup : (entries.map Prod.fst).Nodup

namespace Table

variable {α : Type}

/-- The table without entries. -/
def empty : Table α := ⟨[], by simp⟩

instance : Inhabited (Table α) := ⟨empty⟩

/-- The names of a table. -/
def keys (t : Table α) : List Text := t.entries.map Prod.fst

/-- The values of a table. -/
def values (t : Table α) : List α := t.entries.map Prod.snd

/-- The number of names. -/
def size (t : Table α) : Nat := t.entries.length

/-- The value under a name. -/
def find? (t : Table α) (key : Text) : Option α :=
  (t.entries.find? (·.1 == key)).map Prod.snd

/-- Whether there is a value under a name. -/
def contains (t : Table α) (key : Text) : Bool := t.entries.any (·.1 == key)

/-- The entries under other names than `key`. -/
def others (t : Table α) (key : Text) : List (Text × α) := t.entries.filter (·.1 ≠ key)

/-- After an insertion the names are still different. -/
theorem nodup_insert (t : Table α) (key : Text) (value : α) :
    ((t.others key ++ [(key, value)]).map Prod.fst).Nodup := by
  have hsub : ((t.others key).map Prod.fst).Nodup :=
    List.Nodup.sublist ((List.filter_sublist).map Prod.fst) t.keys_nodup
  rw [List.map_append, List.nodup_append]
  refine ⟨hsub, by simp, ?_⟩
  intro a ha b hb
  simp only [others, List.mem_map, List.mem_filter, List.map_cons, List.map_nil,
    List.mem_singleton, decide_eq_true_eq] at ha hb
  obtain ⟨e, ⟨_, hne⟩, rfl⟩ := ha
  exact hb ▸ hne

/-- The table with `value` under `key`, whatever was there before. -/
def insert (t : Table α) (key : Text) (value : α) : Table α :=
  ⟨t.others key ++ [(key, value)], t.nodup_insert key value⟩

/-- The table without a value under `key`. -/
def erase (t : Table α) (key : Text) : Table α :=
  ⟨t.others key, List.Nodup.sublist (List.filter_sublist.map Prod.fst) t.keys_nodup⟩

/-- The table with the given pairs written in order. -/
def insertAll (t : Table α) (pairs : List (Text × α)) : Table α :=
  pairs.foldl (fun acc p => acc.insert p.1 p.2) t

/-! ## Reading what was written -/

/-- There is no name in an empty table. -/
@[simp] theorem find?_empty (name : Text) : (empty : Table α).find? name = none := rfl

/-- The entries under other names. -/
theorem find?_others (t : Table α) (key name : Text) : (t.others key).find? (·.1 == name) =
    if name = key then none else t.entries.find? (·.1 == name) := by
  rw [others, List.find?_filter]
  split
  · rename_i same
    simp [same]
  · rename_i different
    congr 1
    funext e
    by_cases h : e.1 = name <;> simp_all

/-- Only the name that is written has another value. -/
theorem find?_insert (t : Table α) (key name : Text) (value : α) :
    (t.insert key value).find? name = if name = key then some value else t.find? name := by
  simp only [find?, insert, List.find?_append, find?_others]
  by_cases h : name = key
  · simp [h]
  · simp [h, Ne.symm h]

/-- Only the name that is erased loses its value. -/
theorem find?_erase (t : Table α) (key name : Text) :
    (t.erase key).find? name = if name = key then none else t.find? name := by
  simp only [find?, erase, find?_others]
  by_cases h : name = key
  · simp [h]
  · simp [h]

/-- After pairs are written in order, a name has the value of the last pair with it, or the value
that it had before if there is none. -/
theorem find?_insertAll (t : Table α) (pairs : List (Text × α)) (name : Text) :
    (t.insertAll pairs).find? name =
      (((pairs.filter (·.1 == name)).getLast?).map Prod.snd).or (t.find? name) := by
  induction pairs generalizing t with
  | nil => simp [insertAll]
  | cons p pairs ih =>
    rw [insertAll, List.foldl_cons, ← insertAll, ih, find?_insert]
    by_cases h : name = p.1
    · rw [List.filter_cons_of_pos (by simp [h]), List.getLast?_cons]
      cases (pairs.filter (·.1 == name)).getLast? <;> simp [h]
    · rw [List.filter_cons_of_neg (by simp [Ne.symm h])]
      simp [h]

/-- The entries of a table are what is found. -/
theorem mem_entries_iff {t : Table α} {name : Text} {value : α} :
    (name, value) ∈ t.entries ↔ t.find? name = some value := by
  constructor
  · intro mem
    -- The name of an entry leads to that entry, because no other one has it.
    have first : t.entries.find? (·.1 == name) = some (name, value) := by
      have distinct := t.keys_nodup
      rw [List.Nodup, List.pairwise_map] at distinct
      obtain ⟨before, after, split⟩ := List.append_of_mem mem
      rw [split] at distinct ⊢
      have unlike : ∀ x ∈ before, x.1 ≠ name := fun x hx =>
        (List.pairwise_append.mp distinct).2.2 x hx (name, value) List.mem_cons_self
      rw [List.find?_append, List.find?_eq_none.mpr (by simpa using unlike)]
      simp
    rw [find?, first]
    rfl
  · intro found
    obtain ⟨⟨other, _⟩, first, rfl⟩ := Option.map_eq_some_iff.mp found
    obtain rfl : other = name := by simpa using List.find?_some first
    exact List.mem_of_find?_eq_some first

/-- The values of a table are those under some name. -/
theorem mem_values_iff {t : Table α} {value : α} :
    value ∈ t.values ↔ ∃ name, t.find? name = some value := by
  simp only [← mem_entries_iff]
  simp [values]

/-- There is a value under a name exactly if one is found. -/
theorem contains_eq (t : Table α) (name : Text) : t.contains name = (t.find? name).isSome := by
  rw [contains, find?, Option.isSome_map, List.isSome_find?]

end Table

end StepScript
