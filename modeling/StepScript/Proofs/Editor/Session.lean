import Mathlib
import StepScript.Editor.Action
import StepScript.Proofs.Marker.Agreement
import StepScript.Proofs.Marker.Following

/-!
# Sessions: an editor and the host that follows it

**The host.** A host keeps a record of the breakpoints of an editor. It begins with none, it enters
its own list when the editor has taken it over (`HostRecord.send`), and it takes over each list that
the editor reports, as soon as that waits in the outbox (`HostRecord.hear`).

**Sessions.** A session is a run of an editor with such a host: any actions in any order, refused
ones among them, and at any time the events may be taken (`Session.run`).

**What an action tells.** All that matters here of the events that an action queues is the list of
breakpoints among them, if there is one (`Editor.Tells`). With it, each action is one of the
operations on markers, and keeps the invariant of the markers and the record
(`Editor.keeps_perform`). So at any point of a session, if no report is pending and the host has
confirmed every marker, its record is the list that the editor itself would give
(`Session.record_eq_canonical`).
-/

namespace StepScript

namespace HostRecord

/-- The record after an event. -/
def hear (record : HostRecord) : Event → HostRecord
  | .updateBreakpoints list => list
  | _ => record

/-- The record after an action that the editor has carried out, before its events. -/
def send (record : HostRecord) : Action → HostRecord
  | .decorate payload =>
    match readPayload .breakpoints (Json.Decoder.list Breakpoint.decoder) payload with
    | .ok list => ofList list
    | .error _ => record
  | _ => record

end HostRecord

/-- An editor and what its host has on record. -/
structure Session where
  editor : Editor
  record : HostRecord

/-- What happens in a session. -/
inductive Move where
  | act (action : Action)
  /-- The events are taken. -/
  | take
  deriving DecidableEq, Repr

namespace Session

/-- A session with a new editor. -/
def start (context : Context) : Session := ⟨.ofContext context, []⟩

/-- The session after a move. An action that is refused changes nothing. -/
def step (s : Session) : Move → Session
  | .act action =>
    match s.editor.perform action with
    | .ok after =>
      ⟨after, (after.outbox.drop s.editor.outbox.length).foldl HostRecord.hear
        (s.record.send action)⟩
    | .error _ => s
  | .take => { s with editor := s.editor.drain.2 }

/-- The session after moves from its start. -/
def run (context : Context) (moves : List Move) : Session := moves.foldl step (start context)

end Session

/-! ## What an action tells the host -/

namespace Editor

variable {e mid after : Editor}

/-- The events that were queued from `e` to `after` leave the host with the list in `report`, or
with what it had. -/
def Tells (e after : Editor) (report : Option (List Breakpoint)) : Prop :=
  ∃ events, after.outbox = e.outbox ++ events ∧
    ∀ record, events.foldl HostRecord.hear record = report.getD record

namespace Tells

/-- What the host then has on record. -/
theorem heard {report : Option (List Breakpoint)} (tells : e.Tells after report)
    (record : HostRecord) :
    (after.outbox.drop e.outbox.length).foldl HostRecord.hear record = report.getD record := by
  obtain ⟨events, outbox, hears⟩ := tells
  rw [outbox, List.drop_left, hears]

/-- No event, nothing told. -/
theorem nothing (outbox : after.outbox = e.outbox) : e.Tells after none :=
  ⟨[], by rw [outbox, List.append_nil], fun _ => rfl⟩

/-- An event of another kind tells nothing of breakpoints. -/
theorem fire {event : Event} (other : ∀ record : HostRecord, record.hear event = record) :
    e.Tells (e.fire event) none :=
  ⟨[event], rfl, other⟩

/-- A report tells its list. -/
theorem report (list : Option (List Breakpoint)) : e.Tells (e.report list) list := by
  cases list with
  | none => exact nothing rfl
  | some list => exact ⟨[.updateBreakpoints list], rfl, fun _ => rfl⟩

/-- The check for moved breakpoints tells what it gives. -/
theorem reportDrift : e.Tells e.reportDrift e.markers.checkDrift.1 :=
  report (e := { e with markers := e.markers.checkDrift.2 }) e.markers.checkDrift.1

/-- Nothing told before does not matter. -/
theorem trans {list : Option (List Breakpoint)} (first : e.Tells mid none)
    (second : mid.Tells after list) : e.Tells after list := by
  obtain ⟨earlier, outbox_mid, hears_mid⟩ := first
  obtain ⟨later, outbox_after, hears_after⟩ := second
  refine ⟨earlier ++ later, ?_, fun record => ?_⟩
  · rw [outbox_after, outbox_mid, List.append_assoc]
  · rw [List.foldl_append, hears_mid, hears_after]
    rfl

end Tells

end Editor

/-! ## Every action keeps the invariant -/

namespace Editor

variable {e after : Editor} {record : HostRecord}

/-- From `e` to `after` the invariant is kept, if the host hears the events that are queued. -/
def Keeps (e after : Editor) (record : HostRecord) : Prop :=
  ∃ report, e.Tells after report ∧ after.markers.InStep (report.getD record)

/-- Without events the invariant is one of the markers alone. -/
theorem Keeps.of_quiet (outbox : after.outbox = e.outbox) (h : after.markers.InStep record) :
    e.Keeps after record := ⟨none, Tells.nothing outbox, h⟩

/-- A change of the tables keeps the invariant. -/
theorem Keeps.withContext (h : e.markers.InStep record) {context : Except Failure Context}
    (performed : (do return e.withContext (← context)) = .ok after) : e.Keeps after record := by
  obtain ⟨c, -, changed⟩ := Failure.bind_eq_ok performed
  cases changed
  exact .of_quiet rfl h

/-- An edit keeps the invariant. -/
theorem Keeps.edit (h : e.markers.InStep record) (change : Edit) :
    e.Keeps (e.edit change) record := by
  set c := change.within e.lineCount
  refine ⟨(e.markers.replaceLines c.start c.deleted c.inserted.length).checkDrift.1, ?_, ?_⟩
  · unfold Editor.edit
    refine Tells.trans ?_ Tells.reportDrift
    exact ⟨[.contentDidChange], rfl, fun _ => rfl⟩
  · rw [e.markers_edit change]
    exact h.checkDrift (h.owned.replaceLines _ _ _) (Markers.breakpoints_replaceLines _ _ _ _)

/-- Replacing the whole document is an edit. -/
theorem Keeps.setContent (h : e.markers.InStep record) (text : Text) :
    e.Keeps (e.setContent text) record :=
  Keeps.edit (e := { e with document := e.document.withEndingsOf text }) h
    (e.document.replaceAll text)

/-- Taking over the host's list keeps the invariant, if the host enters it. -/
theorem Keeps.decorate (h : e.markers.InStep record) {payload : Text}
    (performed : e.decorate payload = .ok after) :
    e.Keeps after (record.send (.decorate payload)) := by
  obtain ⟨list, read, changed⟩ := Failure.bind_eq_ok performed
  cases changed
  have entered : record.send (.decorate payload) = HostRecord.ofList list := by
    rw [HostRecord.send, read]
  rw [entered]
  exact .of_quiet rfl (h.decorate list)

/-- A flush keeps the invariant. -/
theorem Keeps.flush (h : e.markers.InStep record) : e.Keeps e.flush.2 record := by
  refine ⟨e.markers.flush.1, Tells.report (e := { e with markers := e.markers.flush.2 }) _, ?_⟩
  rw [Editor.flush, markers_report]
  exact h.flush

/-- A command keeps the invariant. -/
theorem Keeps.execute (h : e.markers.InStep record) (command : Command) :
    e.Keeps (e.execute command) record := by
  cases command with
  | toggleBreakpoint => exact .of_quiet rfl (h.toggle e.cursor)
  | _ => exact ⟨none, Tells.fire fun _ => rfl, h⟩

/-- **Every action keeps the invariant**, if the host enters its own list when it sends that, and
hears the events that are queued. -/
theorem keeps_perform (h : e.markers.InStep record) {action : Action}
    (performed : e.perform action = .ok after) : e.Keeps after (record.send action) := by
  cases action with
  | setContent text => cases performed; exact .setContent h text
  | edit change => cases performed; exact .edit h change
  | setKeywords payload => exact .withContext h performed
  | setElements payload clear => exact .withContext h performed
  | setVariables payload clear => exact .withContext h performed
  | setStepList payload clear => exact .withContext h performed
  | setSyntaxMessage message => cases performed; exact .of_quiet rfl h
  | setErrorLinks payload =>
    obtain ⟨links, -, changed⟩ := Failure.bind_eq_ok performed
    cases changed
    exact .of_quiet rfl (h.of_same h.owned rfl rfl fun _ _ => rfl)
  | decorate payload => exact .decorate h performed
  | toggle line => cases performed; exact .of_quiet rfl (h.toggle line)
  | hover line => cases performed; exact .of_quiet rfl (h.hover line)
  | flush => cases performed; exact .flush h
  | highlight style payload =>
    obtain ⟨lines, -, changed⟩ := Failure.bind_eq_ok performed
    cases changed
    exact .of_quiet rfl (h.onHighlights (e.markers.highlights.exchange_set _ style lines))
  | showError line data text =>
    cases performed
    exact .of_quiet rfl (h.onPanels (e.markers.panels.exchange_add _ line data text _))
  | showCode line data text =>
    cases performed
    exact .of_quiet rfl (h.onPanels (e.markers.panels.exchange_add _ line data text _))
  | clearErrors =>
    cases performed
    exact .of_quiet rfl (h.onPanels (e.markers.panels.exchange_clearErrors _))
  | clear =>
    cases performed
    have cleared := h.onHighlights (e.markers.highlights.exchange_clear _)
    exact .of_quiet rfl (cleared.onPanels (e.markers.panels.exchange_clear _))
  | setCursor line => cases performed; exact .of_quiet rfl h
  | execute command => cases performed; exact .execute h command

end Editor

namespace Session

/-! ## Sessions -/

/-- The markers of the editor and the record of the host are in step. -/
def InStep (s : Session) : Prop := s.editor.markers.InStep s.record

variable {s : Session}

/-- An action that is refused changes nothing. -/
theorem step_of_refused {action : Action} {refusal : Failure}
    (performed : s.editor.perform action = .error refusal) : s.step (.act action) = s := by
  rw [step, performed]

/-- After an action that is carried out the host has heard what it was told. -/
theorem step_of_performed {action : Action} {after : Editor} {report : Option (List Breakpoint)}
    (performed : s.editor.perform action = .ok after) (tells : s.editor.Tells after report) :
    s.step (.act action) = ⟨after, report.getD (s.record.send action)⟩ := by
  rw [step, performed, ← tells.heard]

/-- A move keeps the invariant. -/
theorem InStep.step (h : s.InStep) (move : Move) : (s.step move).InStep := by
  cases move with
  | take => exact h
  | act action =>
    cases performed : s.editor.perform action with
    | error refusal =>
      rw [step_of_refused performed]
      exact h
    | ok after =>
      obtain ⟨report, tells, kept⟩ := Editor.keeps_perform h performed
      rw [step_of_performed performed tells]
      exact kept

/-- The invariant holds throughout a session. -/
theorem inStep_run (context : Context) (moves : List Move) : (run context moves).InStep := by
  induction moves using List.reverseRecOn with
  | nil => exact Markers.InStep.empty
  | append_singleton moves move ih =>
    rw [run, List.foldl_append]
    exact ih.step move

/-- **The host's record stays in step.** After any moves, if no report is pending and every marker
is verified, the host has on record what the editor gives as its breakpoints. -/
theorem record_eq_canonical (context : Context) (moves : List Move)
    (reported : (run context moves).editor.pending = false)
    (verified : ∀ k ∈ (run context moves).editor.markers.breakpoints.markers,
      k.state = .verified) :
    (run context moves).record = (run context moves).editor.markers.canonical :=
  (inStep_run context moves).eq_canonical ⟨reported, verified⟩

/-- The host sends a list, the user sets a breakpoint and removes it again, both are reported, and
an edit of the first line moves the list. -/
def driftingMoves : List Move :=
  [.act (.setContent "a\nb\nc\nd".toList),
    .act (.decorate ("[\x7b\"lineNumber\":3,\"enable\":false\x7d," ++
      "\x7b\"lineNumber\":2,\"enable\":true\x7d," ++
      "\x7b\"lineNumber\":3,\"enable\":true\x7d]").toList),
    .act (.toggle 4), .act .flush, .take, .act (.toggle 4), .act .flush,
    .act (.edit ⟨1, 1, ["x".toList, "y".toList]⟩)]

/-- After that the host knows where its list has gone. -/
theorem record_eq_canonical_driftingMoves :
    (run default driftingMoves).editor.pending = false ∧
      (∀ k ∈ (run default driftingMoves).editor.markers.breakpoints.markers,
        k.state = .verified) ∧
      (run default driftingMoves).record = (run default driftingMoves).editor.markers.canonical ∧
      (run default driftingMoves).editor.markers.canonical = [⟨3, true⟩, ⟨4, false⟩] := by
  have reported : (run default driftingMoves).editor.pending = false := by decide +kernel
  have verified : ∀ k ∈ (run default driftingMoves).editor.markers.breakpoints.markers,
      k.state = .verified := by decide +kernel
  refine ⟨reported, verified, record_eq_canonical default driftingMoves reported verified, ?_⟩
  rw [Markers.canonical, Breakpoints.canonical_eq_ofList]
  decide +kernel

end Session

end StepScript
