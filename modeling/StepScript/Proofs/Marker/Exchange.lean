import Mathlib
import StepScript.Marker.Anchor

/-!
# Who holds which anchors

**One store, several owners.** Breakpoints, highlights and panels draw their anchors from one store.
What an owner does is described without the others: it held some anchors, now it holds some others,
and whatever else was live still is, at the same place (`Anchors.Exchange`). The description says
nothing about who the others are, so it carries over to any larger setting (`Exchange.frame`), and
descriptions of one step after another compose (`Exchange.trans`).

**The store.** `Anchors.Covered a held others` says that every live anchor of `a` is in `held` or in
`others`, that no anchor is in them twice, and that none has a number that is yet to be handed out.
Some of what is held may not be live any more, as an anchor may be discarded behind its owner's
back. From this alone follow the three basic exchanges: creating an anchor (`Exchange.create`),
removing some (`Exchange.removeAll`), and doing nothing (`Exchange.refl`). Nothing that is held is
lost by them. So if the live anchors are exactly those that are held (`Anchors.Shared`), they still
are after an exchange (`Exchange.shared`).
-/

namespace StepScript.Anchors

/-- The anchors that have not been removed. -/
def ids (a : Anchors) : List AnchorId := a.ranges.map Prod.fst

variable (a : Anchors) {id : AnchorId}

/-! ## What each operation does to the live anchors -/

/-- A store without anchors has no identifiers. -/
@[simp] theorem ids_empty : empty.ids = [] := rfl

/-- A new anchor has the next identifier. -/
@[simp] theorem ids_create (range : LineRange) :
    (a.create range).2.ids = a.ids ++ [a.last + 1] := by
  simp [create, ids]

/-- Moving anchors leaves their identifiers. -/
@[simp] theorem ids_mapRanges (f : LineRange → LineRange) : (a.mapRanges f).ids = a.ids := by
  simp [mapRanges, ids]

/-- Removing an anchor takes its identifier away. -/
theorem ids_remove (gone : AnchorId) : (a.remove gone).ids = a.ids.filter (· ≠ gone) := by
  rw [ids, ids, List.filter_map]
  rfl

/-- An identifier that is given up is not given again. -/
@[simp] theorem last_remove (gone : AnchorId) : (a.remove gone).last = a.last := rfl

/-- Anchors are removed one after the other. -/
theorem removeAll_cons (gone : AnchorId) (more : List AnchorId) :
    a.removeAll (gone :: more) = (a.remove gone).removeAll more := rfl

/-- The identifiers that are given up are not given again. -/
@[simp] theorem last_removeAll (gone : List AnchorId) : (a.removeAll gone).last = a.last := by
  induction gone generalizing a with
  | nil => rfl
  | cons id gone ih => rw [removeAll_cons, ih, last_remove]

/-- Removing anchors takes their identifiers away. -/
theorem ids_removeAll (gone : List AnchorId) :
    (a.removeAll gone).ids = a.ids.filter (· ∉ gone) := by
  induction gone generalizing a with
  | nil => simp [removeAll]
  | cons id gone ih =>
    rw [removeAll_cons, ih, ids_remove, List.filter_filter]
    refine List.filter_congr fun x _ => ?_
    by_cases same : x = id <;> simp [same]

/-! ## What each operation does to a range -/

/-- An anchor resolves exactly if it is live. -/
theorem isSome_resolve? : (a.resolve? id).isSome ↔ id ∈ a.ids := by
  simp [resolve?, ids, List.find?_isSome]

/-- An anchor that is not live resolves to nothing. -/
theorem resolve?_eq_none (h : id ∉ a.ids) : a.resolve? id = none := by
  rw [← Option.not_isSome_iff_eq_none, isSome_resolve?]
  exact h

/-- A new anchor resolves to its range, as its number is new. -/
theorem resolve?_create_self (range : LineRange) (new : a.last + 1 ∉ a.ids) :
    (a.create range).2.resolve? (a.create range).1 = some range := by
  have before : a.ranges.find? (·.1 = a.last + 1) = none := by
    have gone := a.resolve?_eq_none new
    rwa [resolve?, Option.map_eq_none_iff] at gone
  rw [create, resolve?, List.find?_append, before]
  simp

/-- Creating an anchor leaves the others where they are. -/
theorem resolve?_create_of_ne (range : LineRange) (other : id ≠ a.last + 1) :
    (a.create range).2.resolve? id = a.resolve? id := by
  simp [create, resolve?, List.find?_append, other.symm]

/-- Removing an anchor leaves the others where they are. -/
theorem resolve?_remove_of_ne {gone : AnchorId} (other : id ≠ gone) :
    (a.remove gone).resolve? id = a.resolve? id := by
  rw [resolve?, resolve?, remove, List.find?_filter]
  congr 2
  funext entry
  by_cases here : entry.1 = id <;> simp [here, other]

/-- Removing anchors leaves the others where they are. -/
theorem resolve?_removeAll_of_not_mem {gone : List AnchorId} (other : id ∉ gone) :
    (a.removeAll gone).resolve? id = a.resolve? id := by
  induction gone generalizing a with
  | nil => rfl
  | cons first gone ih =>
    rw [List.mem_cons, not_or] at other
    rw [removeAll_cons, ih _ other.2, resolve?_remove_of_ne a other.1]

/-- Moving all ranges moves each. -/
@[simp] theorem resolve?_mapRanges (f : LineRange → LineRange) :
    (a.mapRanges f).resolve? id = (a.resolve? id).map f := by
  simp [mapRanges, resolve?, List.find?_map, Function.comp_def]

/-! ## Items on a line -/

section Items

variable {α : Type} (anchor : α → AnchorId) {items : List α}

/-- Items stay on a line while their anchors stay where they are. -/
theorem filter_line?_congr {b : Anchors}
    (same : ∀ x ∈ items, b.resolve? (anchor x) = a.resolve? (anchor x)) (line : Nat) :
    (items.filter fun x => b.line? (anchor x) = some line) =
      items.filter fun x => a.line? (anchor x) = some line := by
  refine List.filter_congr fun x mem => ?_
  rw [line?, line?, same x mem]

/-- An item that is added with a new anchor comes last on its line. -/
theorem filter_line?_create {x : α} (place : Nat) (new : a.last + 1 ∉ a.ids)
    (others : ∀ y ∈ items, anchor y ≠ a.last + 1) (own : anchor x = a.last + 1) (line : Nat) :
    ((items ++ [x]).filter fun y => (a.create (.ofLine place)).2.line? (anchor y) = some line) =
      (items.filter fun y => a.line? (anchor y) = some line) ++
        if place = line then [x] else [] := by
  have here : (a.create (.ofLine place)).2.line? (anchor x) = some place := by
    rw [own]
    exact congrArg (Option.map LineRange.startLine) (a.resolve?_create_self (.ofLine place) new)
  rw [List.filter_append, a.filter_line?_congr anchor fun y mem =>
    a.resolve?_create_of_ne (.ofLine place) (others y mem)]
  simp [List.filter_cons, here]

end Items

/-! ## Numbers that have been handed out -/

/-- The number of every live anchor has been handed out. -/
def Issued (a : Anchors) : Prop := ∀ id ∈ a.ids, id ≤ a.last

namespace Issued

variable {a}

/-- Nothing handed out, nothing live. -/
theorem empty : Anchors.empty.Issued := fun _ mem => absurd mem List.not_mem_nil

/-- A live anchor does not have the number that is handed out next. -/
theorem ne_next (h : a.Issued) (live : id ∈ a.ids) : id ≠ a.last + 1 :=
  fun eq => absurd (eq ▸ h id live) (Nat.not_succ_le_self _)

/-- That number is new. -/
theorem new (h : a.Issued) : a.last + 1 ∉ a.ids := fun mem => h.ne_next mem rfl

/-- The number of a new anchor is handed out. -/
theorem create (h : a.Issued) (range : LineRange) : (a.create range).2.Issued := by
  intro id mem
  rw [ids_create] at mem
  rcases List.mem_append.mp mem with old | new
  · exact (h id old).trans (Nat.le_succ _)
  · exact (List.mem_singleton.mp new).le

/-- Removing anchors takes no number back. -/
theorem removeAll (h : a.Issued) (gone : List AnchorId) : (a.removeAll gone).Issued := by
  intro id mem
  rw [ids_removeAll] at mem
  rw [last_removeAll]
  exact h id (List.mem_of_mem_filter mem)

/-- Moving all ranges changes no number. -/
theorem mapRanges (h : a.Issued) (f : LineRange → LineRange) : (a.mapRanges f).Issued := by
  intro id mem
  rw [ids_mapRanges] at mem
  exact h id mem

end Issued

/-! ## Held and other anchors -/

/-- The live anchors are those in `held` and those in `others`, each once, and the numbers that are
handed out next are new. -/
structure Shared (a : Anchors) (held others : List AnchorId) : Prop where
  perm : a.ids.Perm (held ++ others)
  nodup : a.ids.Nodup
  le_last : ∀ id ∈ a.ids, id ≤ a.last

namespace Shared

variable {a} {held others : List AnchorId}

/-- The held anchors are live. -/
theorem mem_ids_of_held (h : a.Shared held others) (mem : id ∈ held) : id ∈ a.ids :=
  h.perm.mem_iff.mpr (List.mem_append_left _ mem)

/-- The other anchors are live. -/
theorem mem_ids_of_other (h : a.Shared held others) (mem : id ∈ others) : id ∈ a.ids :=
  h.perm.mem_iff.mpr (List.mem_append_right _ mem)

/-- What is held may be listed in another order. -/
theorem congr {held' others' : List AnchorId} (h : a.Shared held others)
    (same : (held ++ others).Perm (held' ++ others')) : a.Shared held' others' :=
  ⟨h.perm.trans same, h.nodup, h.le_last⟩

/-- Moving all ranges changes no owner. -/
theorem mapRanges (h : a.Shared held others) (f : LineRange → LineRange) :
    (a.mapRanges f).Shared held others := by
  refine ⟨?_, ?_, ?_⟩
  · rw [ids_mapRanges]
    exact h.perm
  · rw [ids_mapRanges]
    exact h.nodup
  · rw [ids_mapRanges]
    exact h.le_last

end Shared

/-- Every live anchor is in `held` or in `others`, no anchor is in them twice, and the numbers that
are handed out next are new. -/
structure Covered (a : Anchors) (held others : List AnchorId) : Prop where
  live : ∀ id ∈ a.ids, id ∈ held ++ others
  nodup : (held ++ others).Nodup
  nodup_ids : a.ids.Nodup
  le_last : ∀ id ∈ held ++ others, id ≤ a.last

/-- What is shared is covered. -/
theorem Shared.covered {a : Anchors} {held others : List AnchorId} (h : a.Shared held others) :
    a.Covered held others :=
  ⟨fun _ mem => h.perm.mem_iff.mp mem, h.perm.nodup_iff.mp h.nodup, h.nodup,
    fun id mem => h.le_last id (h.perm.mem_iff.mpr mem)⟩

namespace Covered

variable {a} {held others : List AnchorId}

/-- If all that is held is live, then nothing else is. -/
theorem shared (h : a.Covered held others) (all : ∀ id ∈ held ++ others, id ∈ a.ids) :
    a.Shared held others := by
  refine ⟨?_, h.nodup_ids, fun id mem => h.le_last id (h.live id mem)⟩
  exact (List.perm_ext_iff_of_nodup h.nodup_ids h.nodup).mpr fun id => ⟨h.live id, all id⟩

/-- No number in use is the next one. -/
theorem ne_next (h : a.Covered held others) (mem : id ∈ held ++ others) : id ≠ a.last + 1 :=
  fun eq => absurd (eq ▸ h.le_last id mem) (Nat.not_succ_le_self _)

/-- The next number is not live. -/
theorem new (h : a.Covered held others) : a.last + 1 ∉ a.ids := fun mem =>
  h.ne_next (h.live _ mem) rfl

/-- No anchor is held and of others at once. -/
theorem disjoint (h : a.Covered held others) (mem : id ∈ held) : id ∉ others := fun other =>
  (List.nodup_append.mp h.nodup).2.2 id mem id other rfl

/-- What is held may be listed in another order. -/
theorem congr {held' others' : List AnchorId} (h : a.Covered held others)
    (same : (held ++ others).Perm (held' ++ others')) : a.Covered held' others' :=
  ⟨fun id mem => same.mem_iff.mp (h.live id mem), same.nodup_iff.mp h.nodup, h.nodup_ids,
    fun id mem => h.le_last id (same.mem_iff.mpr mem)⟩

end Covered

/-! ## Exchanges -/

/-- **What an owner does to the store.** It held `old` and holds `new`, and whoever else has anchors
keeps them where they are. If all that it held was live, then so is all that it holds. -/
def Exchange (a : Anchors) (old : List AnchorId) (b : Anchors) (new : List AnchorId) : Prop :=
  ∀ others, a.Covered old others →
    b.Covered new others ∧ (∀ id ∈ others, b.resolve? id = a.resolve? id) ∧
      ((∀ id ∈ old, id ∈ a.ids) → ∀ id ∈ new, id ∈ b.ids)

/-- An anchor that resolves to the same is live as before. -/
theorem mem_ids_congr {a b : Anchors} (same : b.resolve? id = a.resolve? id) :
    id ∈ b.ids ↔ id ∈ a.ids := by
  rw [← isSome_resolve?, ← isSome_resolve?, same]

namespace Exchange

variable {a} {b c : Anchors} {old mid new : List AnchorId}

/-- **Without discarded anchors.** If the live anchors were those held, they are those held after
the exchange. -/
theorem shared (exchange : Exchange a old b new) {others : List AnchorId}
    (shared : a.Shared old others) :
    b.Shared new others ∧ ∀ id ∈ others, b.resolve? id = a.resolve? id := by
  obtain ⟨covered, same, live⟩ := exchange others shared.covered
  refine ⟨covered.shared fun id mem => ?_, same⟩
  rcases List.mem_append.mp mem with held | other
  · exact live (fun id mem => shared.mem_ids_of_held mem) id held
  · exact (mem_ids_congr (same id other)).mpr (shared.mem_ids_of_other other)

/-- Doing nothing. -/
theorem refl : Exchange a old a old := fun _ covered => ⟨covered, fun _ _ => rfl, id⟩

/-- One exchange after another. -/
theorem trans (first : Exchange a old b mid) (second : Exchange b mid c new) :
    Exchange a old c new := by
  intro others covered
  obtain ⟨covered_mid, same_mid, live_mid⟩ := first others covered
  obtain ⟨covered_new, same_new, live_new⟩ := second others covered_mid
  refine ⟨covered_new, fun id other => ?_, fun live => live_new (live_mid live)⟩
  exact (same_new id other).trans (same_mid id other)

/-- **Frame rule.** Anchors that an owner keeps may be counted as held. -/
theorem frame (exchange : Exchange a old b new) (kept : List AnchorId) :
    Exchange a (kept ++ old) b (kept ++ new) := by
  intro others covered
  obtain ⟨covered_new, same, live⟩ := exchange (kept ++ others) (covered.congr (by
    rw [List.append_assoc]
    exact List.perm_append_comm_assoc kept old others))
  refine ⟨covered_new.congr ?_, fun id other => same id (List.mem_append_right kept other), ?_⟩
  · rw [List.append_assoc]
    exact List.perm_append_comm_assoc new kept others
  · -- what is kept is one of the others for the exchange, and these stay where they are
    intro live_old id mem
    rcases List.mem_append.mp mem with is_kept | is_new
    · exact (mem_ids_congr (same id (List.mem_append_left others is_kept))).mpr
        (live_old id (List.mem_append_left old is_kept))
    · exact live (fun id mem => live_old id (List.mem_append_right kept mem)) id is_new

/-- The order in which anchors are listed does not matter. -/
theorem congr {old' new' : List AnchorId} (exchange : Exchange a old b new)
    (same_old : old'.Perm old) (same_new : new.Perm new') : Exchange a old' b new' := by
  intro others covered
  obtain ⟨covered_new, same, live⟩ :=
    exchange others (covered.congr (same_old.append_right others))
  refine ⟨covered_new.congr (same_new.append_right others), same, fun live_old id mem => ?_⟩
  exact live (fun id mem => live_old id (same_old.mem_iff.mpr mem)) id (same_new.mem_iff.mpr mem)

/-- Creating an anchor. -/
theorem create (range : LineRange) : Exchange a [] (a.create range).2 [(a.create range).1] := by
  intro others covered
  have ids := a.ids_create range
  refine ⟨⟨?_, ?_, ?_, ?_⟩, fun id other => ?_, fun _ id mem => ?_⟩
  · rw [ids]
    intro id mem
    rcases List.mem_append.mp mem with live | new
    · exact List.mem_cons_of_mem _ (covered.live id live)
    · rw [List.mem_singleton.mp new]
      exact List.mem_cons_self
  · exact List.nodup_cons.mpr ⟨fun mem => covered.ne_next mem rfl, covered.nodup⟩
  · rw [ids, List.nodup_append]
    refine ⟨covered.nodup_ids, List.nodup_singleton _, fun id mem id' mem' => ?_⟩
    rw [List.mem_singleton.mp mem']
    exact fun same => covered.new (same ▸ mem)
  · intro id mem
    rcases List.mem_cons.mp mem with rfl | other
    · exact Nat.le_refl _
    · exact (covered.le_last id other).trans (Nat.le_succ _)
  · exact a.resolve?_create_of_ne range (covered.ne_next other)
  · rw [ids, List.mem_singleton.mp mem]
    exact List.mem_append_right _ (List.mem_singleton.mpr rfl)

/-- Removing anchors. -/
theorem removeAll (gone kept : List AnchorId) :
    Exchange a (gone ++ kept) (a.removeAll gone) kept := by
  intro others covered
  have split : a.Covered gone (kept ++ others) := covered.congr (by rw [List.append_assoc])
  have apart : ∀ id ∈ kept ++ others, id ∉ gone := fun id mem is_gone =>
    split.disjoint is_gone mem
  have ids := a.ids_removeAll gone
  refine ⟨⟨?_, ?_, ?_, ?_⟩, fun id other => ?_, fun live id mem => ?_⟩
  · rw [ids]
    intro id mem
    obtain ⟨live, is_kept⟩ := List.mem_filter.mp mem
    exact (List.mem_append.mp (split.live id live)).resolve_left (of_decide_eq_true is_kept)
  · exact (List.nodup_append.mp split.nodup).2.1
  · rw [ids]
    exact covered.nodup_ids.filter _
  · rw [last_removeAll]
    exact fun id mem => split.le_last id (List.mem_append_right gone mem)
  · exact a.resolve?_removeAll_of_not_mem (apart id (List.mem_append_right _ other))
  · rw [ids, List.mem_filter]
    exact ⟨live id (List.mem_append_right gone mem),
      decide_eq_true (apart id (List.mem_append_left others mem))⟩

/-- **A run of exchanges.** If every step exchanges what the owner held before it for what it holds
after it, then so does a run of steps. -/
theorem foldl {σ β : Type} {held : σ → List AnchorId} {step : σ × Anchors → β → σ × Anchors}
    (each : ∀ s x, Exchange s.2 (held s.1) (step s x).2 (held (step s x).1)) (xs : List β)
    (s : σ × Anchors) : Exchange s.2 (held s.1) (xs.foldl step s).2 (held (xs.foldl step s).1) := by
  induction xs generalizing s with
  | nil => exact refl
  | cons x xs ih => exact (each s x).trans (ih (step s x))

end Exchange

end StepScript.Anchors
