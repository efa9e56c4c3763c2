import Mathlib
import StepScript.Editor.Action
import StepScript.Proofs.Marker.Agreement
import StepScript.Proofs.Marker.Following

/-!
# What an action does to a pending report

**Two ways to report.** A toggle makes a report pending, and an edit that moves a verified marker is
reported at once. Which actions are of the first kind can be told from the action
(`Action.Toggles`); whether an edit is of the second kind depends on where the markers go
(`Editor.Drifts`, `Markers.checkDrift_of_drifted`).

**The four effects.** Of any action that is carried out there are only these (`Editor.Effect`,
`Editor.effect_of_perform`): nothing is reported and what was pending still is; a report becomes
pending; the host's own list settles what was pending, and nothing is reported; or the list of
breakpoints is reported, and then nothing is pending. The events that an action queues matter here
only as far as they report breakpoints (`Editor.Queues`).
-/

namespace StepScript

/-- The breakpoints that an event reports. -/
def Event.report? : Event → Option (List Breakpoint)
  | .updateBreakpoints list => some list
  | _ => none

namespace Action

/-- The action sets or removes a breakpoint of the user. -/
def Toggles : Action → Prop
  | .toggle _ => True
  | .execute command => command = .toggleBreakpoint
  | _ => False

/-- The action brings the host's list of breakpoints. -/
def Decorates : Action → Prop
  | .decorate _ => True
  | _ => False

/-- The lines that an action replaces in a document. -/
def edit? (d : Document) : Action → Option Edit
  | .setContent text => some (d.replaceAll text)
  | .edit change => some change
  | _ => none

/-- A toggle neither brings a list nor replaces lines. -/
theorem Toggles.other {action : StepScript.Action} (toggles : action.Toggles) :
    ¬ action.Decorates ∧ ∀ d, action.edit? d = none := by
  cases action with
  | toggle | execute => exact ⟨id, fun _ => rfl⟩
  | _ => exact absurd toggles id

end Action

namespace Markers

/-- A verified marker is on another range than the one where it was last seen. -/
def Drifted (m : Markers) : Prop :=
  ∃ k ∈ m.breakpoints.markers, k.state = .verified ∧
    ∃ range, m.anchors.resolve? k.anchor = some range ∧ range ≠ k.seen

end Markers

namespace Editor

/-- The markers after lines are replaced, before they are checked. -/
def movedBy (e : Editor) (change : Edit) : Markers :=
  let inside := change.within e.lineCount
  e.markers.replaceLines inside.start inside.deleted inside.inserted.length

/-- The action is an edit that moves a verified marker. -/
def Drifts (e : Editor) (action : Action) : Prop :=
  ∃ change, action.edit? e.document = some change ∧ (e.movedBy change).Drifted

end Editor

/-! ## Operations on breakpoints -/

namespace Breakpoints

variable (b : Breakpoints) (a : Anchors)

/-- Adding markers leaves a report pending or not. -/
theorem pending_addMarkers (state : MarkerState) (list : List Breakpoint)
    (s : Breakpoints × Anchors) :
    (list.foldl (addMarker state) s).1.pending = s.1.pending := by
  induction list generalizing s with
  | nil => rfl
  | cons x list ih =>
    rw [List.foldl_cons, ih]
    rfl

/-- After the host's list has come, nothing is pending. -/
theorem pending_decorate (list : List Breakpoint) : (b.decorate a list).1.pending = false :=
  pending_addMarkers .verified list _

end Breakpoints

namespace Markers

variable {m : Markers}

/-- The check after an edit looks for a marker that has drifted. -/
theorem any_hasDrifted_iff :
    ((m.breakpoints.markers.filter fun k => (m.anchors.resolve? k.anchor).isSome).any
      (Breakpoints.hasDrifted m.anchors)) = true ↔ m.Drifted := by
  rw [List.any_eq_true]
  constructor
  · rintro ⟨k, mem, drifted⟩
    obtain ⟨mem, live⟩ := List.mem_filter.mp mem
    obtain ⟨range, found⟩ := Option.isSome_iff_exists.mp live
    obtain ⟨verified, moved⟩ : k.state = .verified ∧ m.anchors.resolve? k.anchor ≠ some k.seen := by
      simpa [Breakpoints.hasDrifted] using drifted
    refine ⟨k, mem, verified, range, found, fun same => moved ?_⟩
    rw [found, same]
  · rintro ⟨k, mem, verified, range, found, moved⟩
    refine ⟨k, List.mem_filter.mpr ⟨mem, by simp [found]⟩, ?_⟩
    simp [Breakpoints.hasDrifted, verified, found, moved]

/-- If a verified marker has drifted, the check reports the breakpoints where they are now, and
nothing is pending any more. -/
theorem checkDrift_of_drifted (drifted : m.Drifted) :
    m.checkDrift.1 = some m.checkDrift.2.canonical ∧
      m.checkDrift.2.breakpoints.pending = false := by
  have found := any_hasDrifted_iff.mpr drifted
  unfold Markers.checkDrift Breakpoints.checkDrift
  rw [if_pos found]
  exact ⟨rfl, rfl⟩

/-- If none has drifted, the check reports nothing. -/
theorem checkDrift_of_not_drifted (still : ¬ m.Drifted) :
    m.checkDrift.1 = none ∧
      m.checkDrift.2.breakpoints.pending = m.breakpoints.pending := by
  have unfound := mt any_hasDrifted_iff.mp still
  unfold Markers.checkDrift Breakpoints.checkDrift
  rw [if_neg unfound]
  exact ⟨rfl, rfl⟩

end Markers

/-! ## Actions -/

namespace Editor

variable {e after : Editor} {action : Action}

/-- From `e` to `after` these reports were queued. -/
def Queues (e after : Editor) (reports : List (List Breakpoint)) : Prop :=
  after.outbox.filterMap Event.report? = e.outbox.filterMap Event.report? ++ reports

/-- If the outbox is as it was, nothing was queued. -/
theorem Queues.of_same (outbox : after.outbox = e.outbox) : e.Queues after [] := by
  rw [Queues, outbox, List.append_nil]

/-- An event of another kind is no report. -/
theorem Queues.fire {event : Event} (other : event.report? = none) :
    e.Queues (e.fire event) [] := by
  simp [Queues, Editor.fire, other]

/-- What is reported is queued. -/
theorem Queues.report (list : Option (List Breakpoint)) : e.Queues (e.report list) list.toList := by
  cases list with
  | none => exact .of_same rfl
  | some list => simp [Queues, Editor.report, Editor.fire, Event.report?]

/-- What is queued first and what is queued then. -/
theorem Queues.trans {mid : Editor} {earlier later : List (List Breakpoint)}
    (first : e.Queues mid earlier) (second : mid.Queues after later) :
    e.Queues after (earlier ++ later) := by
  unfold Queues at *
  rw [second, first, List.append_assoc]

/-- What an action that is carried out does to the report of breakpoints. -/
inductive Effect (e : Editor) (action : Action) (after : Editor) : Prop
  /-- Nothing is reported, and what was pending still is. -/
  | kept (pending : after.pending = e.pending) (queued : e.Queues after [])
      (other : ¬ action.Toggles ∧ ¬ action.Decorates ∧ ¬ e.Drifts action)
  /-- A report is pending. -/
  | opened (toggles : action.Toggles) (pending : after.pending = true) (queued : e.Queues after [])
      (other : ¬ action.Decorates ∧ ¬ e.Drifts action)
  /-- The host's list has settled what was pending. -/
  | withdrawn (decorates : action.Decorates) (pending : after.pending = false)
      (queued : e.Queues after []) (untoggled : ¬ action.Toggles)
  /-- The breakpoints are reported. -/
  | reported (cause : e.Drifts action ∨ e.pending = true) (pending : after.pending = false)
      (queued : e.Queues after [after.markers.canonical]) (untoggled : ¬ action.Toggles)

/-- An edit queues what the check for moved markers gives. -/
theorem queues_edit (e : Editor) (change : Edit) :
    e.Queues (e.edit change) (e.movedBy change).checkDrift.1.toList := by
  unfold Editor.edit
  show e.Queues _ ([] ++ _)
  exact Queues.trans (.fire rfl) (.report _)

/-- An edit reports if it moves a verified marker, and else leaves a report pending or not. -/
theorem effect_edit {change : Edit} (replaces : action.edit? e.document = some change)
    (other : ¬ action.Toggles ∧ ¬ action.Decorates)
    (markers : after.markers = (e.movedBy change).checkDrift.2)
    (queued : e.Queues after (e.movedBy change).checkDrift.1.toList) : e.Effect action after := by
  by_cases drifted : (e.movedBy change).Drifted
  · obtain ⟨reported, settled⟩ := Markers.checkDrift_of_drifted drifted
    refine .reported (.inl ⟨change, replaces, drifted⟩) ?_ ?_ other.1
    · rw [pending, markers, settled]
    · rw [markers]
      rwa [reported] at queued
  · obtain ⟨unreported, same⟩ := Markers.checkDrift_of_not_drifted drifted
    refine .kept ?_ ?_ ⟨other.1, other.2, ?_⟩
    · rw [pending, markers, same]
      exact congrArg Breakpoints.pending (Markers.breakpoints_replaceLines _ _ _ _)
    · rwa [unreported] at queued
    · rintro ⟨change', replaces', drifted'⟩
      obtain rfl : change = change' := Option.some.inj (replaces.symm.trans replaces')
      exact drifted drifted'

/-- A toggle makes a report pending. -/
theorem effect_toggle (toggles : action.Toggles) (line : Nat) :
    e.Effect action (e.toggle line).2 := by
  refine .opened toggles (Breakpoints.pending_toggle line) (.of_same rfl) ⟨toggles.other.1, ?_⟩
  rintro ⟨change, replaces, -⟩
  exact nomatch (toggles.other.2 e.document).symm.trans replaces

/-- After a flush nothing is pending. -/
theorem pending_flush (e : Editor) : e.flush.2.pending = false := by
  unfold Editor.flush Markers.flush Breakpoints.flush
  by_cases waits : e.markers.breakpoints.pending = true
  · rw [if_pos waits]
    rfl
  · rw [if_neg waits]
    exact Bool.eq_false_of_not_eq_true waits

/-- A flush reports the breakpoints if a report is pending. -/
theorem queues_flush (e : Editor) :
    e.Queues e.flush.2 (if e.pending then [e.flush.2.markers.canonical] else []) := by
  have queued : e.Queues e.flush.2 e.markers.flush.1.toList :=
    Queues.report (e := { e with markers := e.markers.flush.2 }) _
  have markers : e.flush.2.markers = e.markers.flush.2 := markers_report _ _
  rw [markers]
  unfold Markers.flush Breakpoints.flush at queued ⊢
  by_cases waits : e.pending = true
  · have waits' : e.markers.breakpoints.pending = true := waits
    rw [if_pos waits, if_pos waits']
    rw [if_pos waits'] at queued
    exact queued
  · have waits' : ¬ e.markers.breakpoints.pending = true := waits
    rw [if_neg waits]
    rw [if_neg waits'] at queued
    exact queued

/-- So a flush has one of the effects. -/
theorem effect_flush : e.Effect .flush e.flush.2 := by
  have queued := e.queues_flush
  by_cases waits : e.pending = true
  · rw [if_pos waits] at queued
    exact .reported (.inr waits) e.pending_flush queued id
  · rw [if_neg waits] at queued
    refine .kept ?_ queued ⟨id, id, ?_⟩
    · rw [e.pending_flush, Bool.eq_false_of_not_eq_true waits]
    · rintro ⟨change, replaces, -⟩
      exact nomatch replaces

/-- What neither touches breakpoints nor replaces lines leaves a report pending or not. -/
theorem effect_of_other (other : ¬ action.Toggles ∧ ¬ action.Decorates)
    (unedited : action.edit? e.document = none) (pending : after.pending = e.pending)
    (queued : e.Queues after []) : e.Effect action after := by
  refine .kept pending queued ⟨other.1, other.2, ?_⟩
  rintro ⟨change, replaces, -⟩
  rw [unedited] at replaces
  exact nomatch replaces

/-- Nor does a payload that touches no breakpoints. -/
theorem effect_of_payload {α : Type} {x : Except Failure α} {f : α → Editor}
    (performed : (do return f (← x)) = .ok after)
    (other : ¬ action.Toggles ∧ ¬ action.Decorates) (unedited : action.edit? e.document = none)
    (pending : ∀ a, (f a).pending = e.pending) (outbox : ∀ a, (f a).outbox = e.outbox) :
    e.Effect action after := by
  obtain ⟨a, -, changed⟩ := Failure.bind_eq_ok performed
  cases changed
  exact effect_of_other other unedited (pending a) (.of_same (outbox a))

/-- What a command does: one of them toggles, and the others only queue an event. -/
theorem effect_execute (command : Command) : e.Effect (.execute command) (e.execute command) := by
  by_cases toggles : command = .toggleBreakpoint
  · subst toggles
    exact effect_toggle (show Action.Toggles (.execute .toggleBreakpoint) from rfl) e.cursor
  · cases command with
    | toggleBreakpoint => exact absurd rfl toggles
    | _ => exact effect_of_other ⟨toggles, id⟩ rfl rfl (.fire rfl)

/-- Only a payload is refused, and neither a toggle nor an edit has one. -/
theorem other_of_refused {failure : Failure} (refused : e.perform action = .error failure) :
    ¬ action.Toggles ∧ ¬ e.Drifts action := by
  cases action with
  | setContent | edit | toggle | execute => exact nomatch refused
  | _ => exact ⟨id, fun ⟨_, replaces, _⟩ => nomatch replaces⟩

/-- **The four effects.** Every action that is carried out has one of them. -/
theorem effect_of_perform (performed : e.perform action = .ok after) : e.Effect action after := by
  cases action with
  | setContent text =>
    cases performed
    let e' : Editor := { e with document := e.document.withEndingsOf text }
    exact effect_edit rfl ⟨id, id⟩ (e'.markers_edit (e.document.replaceAll text))
      (e'.queues_edit (e.document.replaceAll text))
  | edit change =>
    cases performed
    exact effect_edit rfl ⟨id, id⟩ (e.markers_edit change) (e.queues_edit change)
  | toggle line =>
    cases performed
    exact effect_toggle (show Action.Toggles (.toggle line) from trivial) line
  | decorate payload =>
    obtain ⟨list, -, changed⟩ := Failure.bind_eq_ok performed
    cases changed
    exact .withdrawn trivial (Breakpoints.pending_decorate _ _ list) (.of_same rfl) id
  | flush => cases performed; exact effect_flush
  | execute command => cases performed; exact effect_execute command
  | hover line =>
    cases performed
    exact effect_of_other ⟨id, id⟩ rfl (Breakpoints.markers_hover line).2 (.of_same rfl)
  -- the other actions touch neither the breakpoints nor the lines
  | setKeywords payload =>
    exact effect_of_payload performed ⟨id, id⟩ rfl (fun _ => rfl) fun _ => rfl
  | setElements payload clear =>
    exact effect_of_payload performed ⟨id, id⟩ rfl (fun _ => rfl) fun _ => rfl
  | setVariables payload clear =>
    exact effect_of_payload performed ⟨id, id⟩ rfl (fun _ => rfl) fun _ => rfl
  | setStepList payload clear =>
    exact effect_of_payload performed ⟨id, id⟩ rfl (fun _ => rfl) fun _ => rfl
  | setErrorLinks payload =>
    exact effect_of_payload performed ⟨id, id⟩ rfl (fun _ => rfl) fun _ => rfl
  | highlight style payload =>
    exact effect_of_payload performed ⟨id, id⟩ rfl (fun _ => rfl) fun _ => rfl
  | _ => cases performed; exact effect_of_other ⟨id, id⟩ rfl rfl (.of_same rfl)

end Editor

end StepScript
