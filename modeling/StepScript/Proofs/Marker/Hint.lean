import Mathlib
import StepScript.Proofs.Marker.Apart
import StepScript.Proofs.Marker.Following
import StepScript.Proofs.Marker.Toggle

/-!
# The hint and the breakpoints

**While the pointer acts.** When the pointer moves over a line, the hint goes there only if the line
has no marker, and a toggle takes the hint off. So at that moment the hint is on no breakpoint.

**When the host acts.** A list from the host sets markers wherever it says, and leaves the hint
where it is. Nothing else sets a marker while the pointer rests. So as long as lines stay where they
are, the hint is on a breakpoint exactly if the last list that has come since the pointer acted
(`Markers.pushedSince`) names its line (`Markers.hint_free_iff_not_pushed`,
`Markers.hint_on_breakpoint`).

**One hint.** Each operation takes the anchor of the old hint off before it creates another one, so
whatever is done, at most one live anchor belongs to a hint.
-/

namespace StepScript

open Anchors

namespace Breakpoints

variable {b : Breakpoints} {a : Anchors} {others : List AnchorId} {list : List Breakpoint}

/-! ## The pointer -/

/-- Moving the hint changes the state of no line. -/
theorem stateAt?_hover (covered : a.Covered b.held others) (place : Option Nat) (line : Nat) :
    (b.hover a place).1.stateAt? (b.hover a place).2 line = b.stateAt? a line := by
  have found : (b.hover a place).1.markerAt? (b.hover a place).2 line = b.markerAt? a line := by
    unfold markerAt?
    rw [(markers_hover place).1]
    refine List.find?_congr fun k mem => ?_
    rw [line?_congr (resolve?_hover covered place mem)]
  rw [stateAt?, stateAt?, found]

/-- The hint goes to a line without a marker only. -/
theorem stateAt?_of_hintLine?_hover (covered : a.Covered b.held others) {place : Option Nat}
    {line : Nat} (shown : (b.hover a place).1.hintLine? (b.hover a place).2 = some line) :
    b.stateAt? a line = none := by
  have cleared := (b.exchange_clearHint a others covered).1
  unfold hover at shown
  cases place with
  | none => cases shown
  | some place =>
    simp only at shown
    split_ifs at shown with taken
    · cases shown
    · have new := resolve?_create_self (b.clearHint a).2 (.ofLine place) cleared.new
      have here : some place = some line :=
        (congrArg (Option.map LineRange.startLine) new).symm.trans shown
      cases here
      rw [stateAt?_eq_none_iff, ← markersAt_clearHint covered, ← List.head?_eq_none_iff,
        ← markerAt?_eq_head?]
      simpa using taken

/-- After a toggle there is no hint. -/
theorem hintLine?_toggle (line : Nat) :
    (b.toggle a line).2.1.hintLine? (b.toggle a line).2.2 = none := by
  rcases b.toggle_cases a line with ⟨marker, -, toggled⟩ | ⟨-, toggled⟩
  · rw [toggled]
    rfl
  · rw [toggled]
    rfl

/-! ## The host, and the check after an edit -/

/-- After a list has come, a line has a state exactly if the list names it. -/
theorem Pushed.stateAt?_eq_none_iff (pushed : b.Pushed a list) (line : Nat) :
    b.stateAt? a line = none ↔ ∀ x ∈ list, x.line ≠ line := by
  rw [Breakpoints.stateAt?_eq_none_iff, markersAt, List.filter_eq_nil_iff, ← pushed.breakpoints,
    List.forall_mem_map]
  refine forall₂_congr fun k mem => ?_
  rw [line?, pushed.seen k mem, decide_eq_true_iff]
  exact not_congr Option.some_inj

/-- The check after an edit changes the state of no line: what it drops is on none. -/
theorem stateAt?_checkDrift (b : Breakpoints) (a : Anchors) (line : Nat) :
    (b.checkDrift a).2.stateAt? a line = b.stateAt? a line := by
  have live : (b.markers.filter fun k => (a.resolve? k.anchor).isSome).find?
      (fun k => a.line? k.anchor = some line) = b.markerAt? a line := by
    rw [List.find?_filter]
    refine List.find?_congr fun k _ => ?_
    cases found : a.resolve? k.anchor with
    | none => simp [line?, found]
    | some range => simp
  unfold checkDrift
  simp only
  split_ifs
  · rw [stateAt?, markerAt?, List.find?_map, Option.map_map]
    exact congrArg (Option.map Marker.state) live
  · exact congrArg (Option.map Marker.state) live

end Breakpoints

namespace Markers

/-! ## The last list since the pointer acted -/

/-- The operation leaves every line where it is, and discards no anchor. -/
def Operation.Steady : Operation → Prop
  | .insertLines _ _ | .deleteLines _ _ | .discard _ => False
  | _ => True

/-- The list that counts after an operation: none once the pointer has acted, and else the last one
that the host has sent. -/
def pushedAfter (before : List Breakpoint) : Operation → List Breakpoint
  | .hover _ | .toggle _ => []
  | .decorate list => list
  | _ => before

/-- The last list that the host has sent since the pointer moved or toggled a line. It is empty if
there was none. -/
def pushedSince (operations : List Operation) : List Breakpoint := operations.foldl pushedAfter []

/-- The hint is on a line without a marker, unless the list names the line. -/
def HintApart (m : Markers) (list : List Breakpoint) : Prop :=
  ∀ line, m.hintLine? = some line → (m.stateAt? line = none ↔ ∀ x ∈ list, x.line ≠ line)

variable {m m' : Markers} {list : List Breakpoint}

/-- It depends on the line of the hint and the states of lines only. -/
theorem HintApart.of_same (h : m.HintApart list) (same : m.SameBreakpoints m') :
    m'.HintApart list := by
  intro line shown
  rw [same.stateAt?]
  exact h line (same.hintLine?.symm.trans shown)

/-- **Each operation** that leaves lines where they are keeps the hint apart. -/
theorem HintApart.operate (h : m.HintApart list) (covered : m.Covered) {o : Operation}
    (steady : o.Steady) : (m.operate o).HintApart (pushedAfter list o) := by
  have shared := covered.congr m.held_perm_breakpoints
  cases o with
  | toggle place =>
    intro line shown
    exact nomatch (Breakpoints.hintLine?_toggle place).symm.trans shown
  | hover place =>
    intro line shown
    have free := Breakpoints.stateAt?_of_hintLine?_hover shared shown
    exact iff_of_true ((Breakpoints.stateAt?_hover shared place line).trans free)
      fun _ mem => absurd mem List.not_mem_nil
  | decorate pushed =>
    have taken : (m.breakpoints.decorate m.anchors pushed).1.Pushed
        (m.breakpoints.decorate m.anchors pushed).2 pushed :=
      Breakpoints.pushed_decorate
        (fun id mem => covered.le_last id (covered.live id mem)) pushed
    exact fun line _ => taken.stateAt?_eq_none_iff line
  | checkDrift =>
    intro line shown
    refine (iff_of_eq (congrArg (· = none) ?_)).trans (h line ?_)
    · exact m.breakpoints.stateAt?_checkDrift m.anchors line
    · have hint := m.breakpoints.hint_checkDrift m.anchors
      exact (congrArg (Option.bind · m.anchors.line?) hint).symm.trans shown
  | flush =>
    have same : m.SameBreakpoints (m.operate .flush) := by
      unfold Markers.operate Markers.flush Breakpoints.flush
      by_cases pending : m.breakpoints.pending = true
      · rw [if_pos pending]
        exact ⟨rfl, fun _ => rfl, rfl⟩
      · rw [if_neg pending]
        exact ⟨rfl, fun _ => rfl, rfl⟩
    exact h.of_same same
  | insertLines | deleteLines | discard => exact steady.elim
  | highlight | clearHighlights | setLinks | showError | showCode | clearErrors | clearPanels =>
    exact h.of_same (covered.sameBreakpoints (nomatch ·))

/-- Any such operations do. -/
theorem hintApart_run {operations : List Operation} (steady : ∀ o ∈ operations, o.Steady) :
    (operations.foldl operate .empty).HintApart (pushedSince operations) := by
  induction operations using List.reverseRecOn with
  | nil => exact fun line shown => nomatch shown
  | append_singleton operations o ih =>
    rw [List.forall_mem_append] at steady
    rw [pushedSince, List.foldl_append, List.foldl_append]
    exact (ih steady.1).operate (Covered.empty.run operations) (steady.2 o (by simp))

/-! ## The anchor of the hint -/

/-- The live anchors that no marker, no highlight and no panel holds. -/
def hintAnchors (m : Markers) : List AnchorId :=
  m.anchors.ids.filter (· ∉ m.breakpoints.marked ++ (m.highlights.held ++ m.panels.held))

/-- Each of them is the anchor of the hint. -/
theorem Covered.hint_of_mem_hintAnchors (covered : m.Covered) {id : AnchorId}
    (mem : id ∈ m.hintAnchors) : m.breakpoints.hint = some id := by
  obtain ⟨live, spare⟩ := List.mem_filter.mp mem
  have held : id ∈ m.breakpoints.held ++ (m.highlights.held ++ m.panels.held) :=
    m.held_perm_breakpoints.mem_iff.mp (covered.live id live)
  have spare : id ∉ m.breakpoints.marked ++ (m.highlights.held ++ m.panels.held) :=
    of_decide_eq_true spare
  rw [Breakpoints.held, List.append_assoc] at held
  simp only [List.mem_append, not_or] at held spare
  have hint : id ∈ m.breakpoints.hint.toList := by tauto
  exact Option.mem_toList.mp hint

/-- So there is at most one. -/
theorem Covered.length_hintAnchors_le (covered : m.Covered) : m.hintAnchors.length ≤ 1 := by
  have nodup : m.hintAnchors.Nodup := covered.nodup_ids.filter _
  have among : m.hintAnchors ⊆ m.breakpoints.hint.toList := fun id mem =>
    Option.mem_toList.mpr (covered.hint_of_mem_hintAnchors mem)
  exact (nodup.subperm among).length_le.trans Option.length_toList_le

/-- **The hint and the breakpoints.** After any operations that leave lines where they are, the hint
is on a line without a state exactly if that line is not named by the last list that the host has
sent since the pointer acted. And at most one live anchor belongs to a hint: the one of the hint
that is shown. -/
theorem hint_free_iff_not_pushed (operations : List Operation)
    (steady : ∀ o ∈ operations, o.Steady) :
    let m := operations.foldl operate .empty
    (∀ line, m.hintLine? = some line →
      (m.stateAt? line = none ↔ ∀ x ∈ pushedSince operations, x.line ≠ line)) ∧
      m.hintAnchors.length ≤ 1 ∧ ∀ id ∈ m.hintAnchors, m.breakpoints.hint = some id := by
  intro m
  have covered : m.Covered := Covered.empty.run operations
  exact ⟨hintApart_run steady, covered.length_hintAnchors_le,
    fun _ mem => covered.hint_of_mem_hintAnchors mem⟩

/-- The pointer moves, a breakpoint is toggled, and lists come before and after. -/
def pointed : List Operation :=
  [.hover (some 2), .decorate [⟨2, true⟩, ⟨4, false⟩], .toggle 3, .hover (some 4), .hover (some 5),
    .highlight "current".toList [5], .decorate [⟨5, true⟩, ⟨2, true⟩], .flush,
    .decorate [⟨3, true⟩]]

/-- Of these lists only the last one counts. It does not name the line of the hint, which is free,
though the one before names it. -/
theorem hint_free_iff_not_pushed_pointed :
    (∀ o ∈ pointed, o.Steady) ∧ (pointed.foldl operate .empty).hintLine? = some 5 ∧
      (pointed.foldl operate .empty).stateAt? 5 = none ∧
      (pointed.foldl operate .empty).hintAnchors.length ≤ 1 ∧
      (pointed.foldl operate .empty).breakpoints.hint = some 5 := by
  have steady : ∀ o ∈ pointed, o.Steady := by simp [pointed, Operation.Steady]
  have shown : (pointed.foldl operate .empty).hintLine? = some 5 := by decide +kernel
  obtain ⟨free, one, hint⟩ := hint_free_iff_not_pushed pointed steady
  exact ⟨steady, shown, (free 5 shown).mpr (by decide), one, hint 5 (by decide +kernel)⟩

/-- **The hint may be on a breakpoint.** A list that comes while the pointer rests on a line sets a
breakpoint there, beside the hint. -/
theorem hint_on_breakpoint :
    ([.hover (some 2), .decorate [⟨2, true⟩]].foldl operate .empty).hintLine? = some 2 ∧
      ([.hover (some 2), .decorate [⟨2, true⟩]].foldl operate .empty).stateAt? 2 =
        some .verified := by
  decide +kernel

end Markers

end StepScript
