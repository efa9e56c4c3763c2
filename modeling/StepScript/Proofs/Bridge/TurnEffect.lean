import Mathlib
import StepScript.Proofs.Bridge.Turns
import StepScript.Proofs.Editor.InPlace

/-!
# What a turn does to the window

**Reports.** Of what a bridge writes only the reports of breakpoints matter here (`Bridge.reports`).
An answer is none of them, so a line writes the reports that the editor has queued by the time its
request has been served.

**What is asked.** A turn asks for an action if it is a line with a request for it, and the bridge
has not stopped (`Bridge.Asks`). The turns that matter toggle a breakpoint, have the host's list
taken over, or move a verified marker by an edit (`Bridge.Toggles`, `Bridge.TakesOver`,
`Bridge.Drifts`).

**The effects.** What an action does to a pending report has been said of the editor. A turn does it
to the deadline too, as a window is open exactly while a report is pending. There are four effects
(`Bridge.Effect`), and each turn has one (`Matched.effect`): the window stays as it is; a toggle
opens it or falls into it; the host's list closes it without a report; or the breakpoints are
reported, and then it is closed. This is all that is used of a turn where whole runs are treated.
-/

namespace StepScript

/-- The breakpoints that a message reports. -/
def Message.report? : Message → Option (List Breakpoint)
  | .event e => e.report?
  | _ => none

/-- The action that a request asks for. -/
def Request.action? (r : Request) : Option StepScript.Action :=
  match r.operation with
  | .ok (.action action) => some action
  | _ => none

namespace Bridge

/-- The reports among messages. -/
def reports (messages : List Message) : List (List Breakpoint) :=
  messages.filterMap Message.report?

/-- The reports of messages that follow each other. -/
@[simp] theorem reports_append (one other : List Message) :
    reports (one ++ other) = reports one ++ reports other := List.filterMap_append

/-- The reports among events. -/
@[simp] theorem reports_events (events : List Event) :
    reports (events.map .event) = events.filterMap Event.report? := by
  rw [reports, List.filterMap_map]
  exact List.filterMap_congr fun _ _ => rfl

/-! ## What a turn asks for -/

/-- The action that a turn asks for. -/
def Turn.action? (t : Turn) : Option StepScript.Action :=
  t.text?.bind fun text => (Json.Decoder.decode? Request.decoder text).bind Request.action?

/-- The turn asks for an action, and the bridge serves it. -/
def Asks (b : Bridge) (t : Turn) (action : StepScript.Action) : Prop :=
  b.stopped = none ∧ t.action? = some action

/-- The turn sets or removes a breakpoint of the user. -/
def Toggles (b : Bridge) (t : Turn) : Prop := ∃ action, b.Asks t action ∧ action.Toggles

/-- The turn brings the host's list of breakpoints, and the list is taken over. -/
def TakesOver (b : Bridge) (t : Turn) : Prop :=
  ∃ action left, b.Asks t action ∧ action.Decorates ∧ b.editor.perform action = .ok left

/-- The turn is an edit that moves a verified marker. -/
def Drifts (b : Bridge) (t : Turn) : Prop := ∃ action, b.Asks t action ∧ b.editor.Drifts action

/-- An answer is no report. -/
theorem reports_respondLine (e : Editor) (text : Text) : reports (respondLine e text).1 = [] := by
  unfold respondLine
  cases Json.Decoder.decode? Request.decoder text with
  | none => rfl
  | some r =>
    simp only [respond]
    rcases (Editor.dispatch r).outcome e with ⟨_ | _ | _, _⟩ <;> rfl

/-- A request leaves behind the editor that its action leaves behind, if it asks for one. -/
theorem left_dispatch (e : Editor) (r : Request) :
    ((Editor.dispatch r).outcome e).2 = (r.action?.map e.leftBy).getD e := by
  rw [Editor.outcome_dispatch, Editor.serve_eq, Request.action?]
  cases r.operation with
  | error refusal => rfl
  | ok operation =>
    cases operation with
    | query query => rfl
    | action action =>
      simp only [Option.map_some, Option.getD_some, Editor.leftBy_eq, Editor.carryOut]
      cases e.perform action <;> rfl

/-- So does a line. -/
theorem left_respondLine (e : Editor) (text : Text) :
    (respondLine e text).2 =
      (((Json.Decoder.decode? Request.decoder text).bind Request.action?).map e.leftBy).getD e := by
  unfold respondLine
  cases Json.Decoder.decode? Request.decoder text with
  | none => rfl
  | some r =>
    simp only [respond, Option.bind_some, ← left_dispatch]
    rcases (Editor.dispatch r).outcome e with ⟨_ | _ | _, _⟩ <;> rfl

/-! ## What a turn does to the window -/

/-- The reports that wait to be sent. -/
def waiting (b : Bridge) : List (List Breakpoint) := b.editor.outbox.filterMap Event.report?

/-- What a turn does to the window. -/
inductive Effect (b : Bridge) (t : Turn) : Prop
  /-- An open window goes on, and none is opened. -/
  | kept (pending : (b.turn t).2.editor.pending = b.editor.pending)
      (deadline : (b.turn t).2.deadline = b.deadline)
      (sent : reports (b.turn t).1 ++ (b.turn t).2.waiting = b.waiting)
      (other : ¬ b.Toggles t ∧ ¬ b.TakesOver t ∧ ¬ b.Drifts t)
  /-- A toggle opens a window, or falls into an open one. -/
  | opened (toggles : b.Toggles t) (pending : (b.turn t).2.editor.pending = true)
      (deadline : (b.turn t).2.deadline = b.deadline.or (some (b.now + b.delay)))
      (sent : reports (b.turn t).1 = b.waiting) (drained : (b.turn t).2.waiting = [])
      (other : ¬ b.TakesOver t ∧ ¬ b.Drifts t)
  /-- The host's list closes the window without a report. -/
  | withdrawn (takesOver : b.TakesOver t) (pending : (b.turn t).2.editor.pending = false)
      (sent : reports (b.turn t).1 = b.waiting) (drained : (b.turn t).2.waiting = [])
      (untoggled : ¬ b.Toggles t)
  /-- The breakpoints are reported, and the window is closed. -/
  | reported (cause : b.Drifts t ∨ b.editor.pending = true)
      (pending : (b.turn t).2.editor.pending = false)
      (sent : reports (b.turn t).1 = b.waiting ++ [(b.turn t).2.editor.markers.canonical])
      (drained : (b.turn t).2.waiting = []) (untoggled : ¬ b.Toggles t)

variable {b : Bridge} {t : Turn}

/-- A turn that asks for no action, or for one that is refused, does nothing to breakpoints. -/
theorem other_of_unperformed
    (unperformed : ∀ action, b.Asks t action →
      ∃ failure, b.editor.perform action = .error failure) :
    ¬ b.Toggles t ∧ ¬ b.TakesOver t ∧ ¬ b.Drifts t := by
  refine ⟨?_, ?_, ?_⟩
  · rintro ⟨action, asks, toggles⟩
    obtain ⟨failure, refused⟩ := unperformed action asks
    exact (Editor.other_of_refused refused).1 toggles
  · rintro ⟨action, left, asks, -, performed⟩
    obtain ⟨failure, refused⟩ := unperformed action asks
    exact nomatch refused.symm.trans performed
  · rintro ⟨action, asks, drifts⟩
    obtain ⟨failure, refused⟩ := unperformed action asks
    exact (Editor.other_of_refused refused).2 drifts

/-- What is sent with the answer of a line is what waits after it. -/
theorem reports_handleLine (e : Editor) (text : Text) :
    reports (handleLine e text).1 = (respondLine e text).2.outbox.filterMap Event.report? := by
  unfold handleLine Editor.drain
  simp only [reports_append, reports_events, reports_respondLine, List.nil_append]

/-- What a line does to the window that asks for no action, or whose action is refused. -/
theorem effect_of_unperformed (matched : b.Matched) {text : Text}
    (answer : b.turn t = ((handleLine b.editor text).1, b.answered text))
    (left : (respondLine b.editor text).2 = b.editor)
    (other : ¬ b.Toggles t ∧ ¬ b.TakesOver t ∧ ¬ b.Drifts t) : b.Effect t := by
  have pending : (b.answered text).editor.pending = b.editor.pending := by
    show (respondLine b.editor text).2.pending = b.editor.pending
    rw [left]
  refine .kept ?_ ?_ ?_ other
  · rw [answer, pending]
  · rw [answer, matched.deadline_answered pending]
  · rw [answer, reports_handleLine, left]
    exact List.append_nil _

/-- What a line does to the window whose action is carried out: what the action does to the
report. -/
theorem effect_of_performed (matched : b.Matched) {text : Text} {action : StepScript.Action}
    (answer : b.turn t = ((handleLine b.editor text).1, b.answered text)) (asks : b.Asks t action)
    (performed : b.editor.perform action = .ok (respondLine b.editor text).2) : b.Effect t := by
  have only {other : StepScript.Action} (asks' : b.Asks t other) : other = action :=
    Option.some.inj (asks'.2.symm.trans asks.2)
  have sent : reports (b.turn t).1 =
      (respondLine b.editor text).2.outbox.filterMap Event.report? := by
    rw [answer, reports_handleLine]
  have drained : (b.turn t).2.waiting = [] := by
    rw [answer]
    rfl
  have pending : (b.turn t).2.editor.pending = (respondLine b.editor text).2.pending := by
    rw [answer]
    rfl
  have toggled : b.Toggles t → action.Toggles := by
    rintro ⟨other, asks', toggles⟩
    exact only asks' ▸ toggles
  have decorated : b.TakesOver t → action.Decorates := by
    rintro ⟨other, -, asks', decorates, -⟩
    exact only asks' ▸ decorates
  have drifted : b.Drifts t → b.editor.Drifts action := by
    rintro ⟨other, asks', drifts⟩
    exact only asks' ▸ drifts
  rcases Editor.effect_of_perform performed with
    ⟨same, queued, untoggled, undecorated, undrifted⟩ |
    ⟨toggles, pends, queued, undecorated, undrifted⟩ |
    ⟨decorates, settled, queued, untoggled⟩ | ⟨cause, settled, queued, untoggled⟩
  · refine .kept (pending.trans same) ?_ ?_
      ⟨mt toggled untoggled, mt decorated undecorated, mt drifted undrifted⟩
    · rw [answer] at pending ⊢
      exact matched.deadline_answered (pending.trans same)
    · rw [sent, drained, List.append_nil, queued, List.append_nil]
      rfl
  · refine .opened ⟨action, asks, toggles⟩ (pending.trans pends) ?_ ?_ drained
      ⟨mt decorated undecorated, mt drifted undrifted⟩
    · rw [answer]
      exact if_pos pends
    · rw [sent, queued, List.append_nil]
      rfl
  · refine .withdrawn ⟨action, _, asks, decorates, performed⟩ (pending.trans settled) ?_ drained
      (mt toggled untoggled)
    rw [sent, queued, List.append_nil]
    rfl
  · refine .reported (cause.imp_left fun drifts => ⟨action, asks, drifts⟩) (pending.trans settled)
      ?_ drained (mt toggled untoggled)
    rw [sent, queued, answer]
    rfl

/-- What the end of the window does: what is pending is reported. -/
theorem reports_expire (b : Bridge) :
    reports b.expire.1 =
      b.waiting ++ if b.editor.pending then [b.expire.2.editor.markers.canonical] else [] := by
  have sent : reports b.expire.1 = b.editor.flush.2.outbox.filterMap Event.report? := by
    unfold expire sendEvents Editor.drain
    simp only [reports_events]
  rw [sent, b.editor.queues_flush]
  rfl

/-- **What a turn does to the window** at the head of the loop. -/
theorem Matched.effect (matched : b.Matched) (t : Turn) : b.Effect t := by
  rcases b.served t with
    ⟨left, unasked, still, editor, deadline, -⟩ | ⟨text, asked, running, answer⟩ |
    ⟨timer, opened, expired⟩
  -- the turn does nothing to the editor
  · refine .kept ?_ ?_ ?_ (other_of_unperformed ?_)
    · rw [still, editor]
    · rw [still, deadline]
    · rw [still, waiting, editor]
      rfl
    · rintro action ⟨running, asks⟩
      rw [Turn.action?, unasked running] at asks
      exact nomatch asks
  -- a line leaves behind what its action leaves behind, if it asks for one
  · have left := left_respondLine b.editor text
    have action : (Json.Decoder.decode? Request.decoder text).bind Request.action? = t.action? := by
      rw [Turn.action?, asked]
      rfl
    rw [action] at left
    cases asks : t.action? with
    | none =>
      rw [asks] at left
      refine effect_of_unperformed matched answer left (other_of_unperformed ?_)
      rintro action ⟨-, asks'⟩
      exact nomatch asks.symm.trans asks'
    | some action =>
      rw [asks, Option.map_some, Option.getD_some, Editor.leftBy_eq] at left
      cases performed : b.editor.perform action with
      | ok after =>
        rw [performed] at left
        exact effect_of_performed matched answer ⟨running, asks⟩
          (performed.trans (congrArg _ left.symm))
      | error failure =>
        rw [performed] at left
        refine effect_of_unperformed matched answer left (other_of_unperformed ?_)
        rintro action' ⟨-, asks'⟩
        obtain rfl : action = action' := Option.some.inj (asks.symm.trans asks')
        exact ⟨failure, performed⟩
  -- the window ends: as it was open, a report is pending
  · have pending : b.editor.pending = true := matched.symm.trans opened
    have sent := b.reports_expire
    rw [if_pos pending, ← expired] at sent
    refine .reported (.inr pending) ?_ sent ?_ ?_
    · rw [expired, b.pending_expire]
    · rw [expired]
      rfl
    · rintro ⟨action, ⟨-, asks⟩, -⟩
      rw [timer] at asks
      exact nomatch asks

end Bridge

end StepScript
