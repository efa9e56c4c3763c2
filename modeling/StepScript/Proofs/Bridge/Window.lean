import Mathlib
import StepScript.Proofs.Bridge.TurnEffect
import StepScript.Proofs.Marker.Canonical

/-!
# The window in which toggles are gathered

**The invariant.** The deadline is kept by the bridge, and whether a report is pending by the
breakpoints of its editor. At the head of the loop a deadline is set exactly while a report is
pending, and then no earlier report waits in the outbox (`Bridge.Ready`).

**Runs.** With one lemma for a turn (`Matched.effect`), what holds along a run is shown by induction
on the turns (`Bridge.Always`, `Bridge.Sometime`). While nothing is pending, nothing is reported
until a toggle or an edit that moves a verified marker (`Ready.silent`). While a window is open, at
most the last turn reports (`Ready.once`), and what is pending stays so until it is reported or the
host's list takes its place (`Ready.told`). For the deadline the induction runs backwards: what is
pending now was so before the last turn, or the last turn opened the window
(`Ready.exists_openedBy`).

**The window.** `Bridge.KeepsWindow` puts this together, and `Bridge.keepsWindow` proves it for any
turns from an editor with nothing pending. A report is counted by its list; what the host gets is the
text of that list (`Message.Carries`).
-/

namespace StepScript

/-- The message is the event that tells the host of breakpoints, and its payload is the text of a list of
them, from which the list is read again if its lines have 32 bits. -/
def Message.Carries (m : Message) (list : List Breakpoint) : Prop :=
  ∃ payload : Text,
    m.toValue =
      .record [("event", .ofString "UPDATE_BREAKPOINTS"), ("payload", .string payload)] ∧
    payload = (Json.Value.array (list.map Breakpoint.toValue)).compact ∧
    ((∀ x ∈ list, x.line < Json.twoTo 32) →
      readPayload .breakpoints (Json.Decoder.list Breakpoint.decoder) payload = .ok list)

/-- **A report carries its list.** -/
theorem Message.carries_of_report?_eq_some {m : Message} {list : List Breakpoint}
    (reports : m.report? = some list) : m.Carries list := by
  cases m with
  | event e =>
    cases e with
    | updateBreakpoints sent =>
      obtain rfl : sent = list := Option.some.inj reports
      refine ⟨_, rfl, rfl, fun fits => ?_⟩
      rw [readPayload, Breakpoint.decode?_list fits]
    | _ => cases reports
  | _ => cases reports

namespace Bridge

/-! ## Along a run -/

/-- `P` holds of each turn and of the bridge before it. -/
def Always (P : Bridge → Turn → Prop) (b : Bridge) : List Turn → Prop
  | [] => True
  | t :: later => P b t ∧ Always P (b.turn t).2 later

/-- `P` holds of some turn and of the bridge before it. -/
def Sometime (P : Bridge → Turn → Prop) (b : Bridge) : List Turn → Prop
  | [] => False
  | t :: later => P b t ∨ Sometime P (b.turn t).2 later

/-- One more turn. -/
theorem Always.snoc {P : Bridge → Turn → Prop} {b : Bridge} {turns : List Turn} {t : Turn}
    (h : Always P b turns) (last : P (b.after turns) t) : Always P b (turns ++ [t]) := by
  induction turns generalizing b with
  | nil => exact ⟨last, trivial⟩
  | cons u turns ih => exact ⟨h.1, ih h.2 last⟩

/-- The turn writes one report, of the breakpoints as they are then. -/
def Reports (b : Bridge) (t : Turn) : Prop :=
  reports (b.turn t).1 = [(b.turn t).2.editor.markers.canonical]

variable {b : Bridge}

/-- At the head of the loop a window is open exactly while a report is pending, and then no earlier
report waits. -/
structure Ready (b : Bridge) : Prop where
  matched : b.Matched
  sent : b.editor.pending = true → b.waiting = []

namespace Ready

/-- A turn keeps it so. -/
theorem turn (ready : b.Ready) (t : Turn) : (b.turn t).2.Ready := by
  refine ⟨ready.matched.turn t, fun pending => ?_⟩
  rcases ready.matched.effect t with
    ⟨same, -, sent, -⟩ | ⟨-, -, -, -, drained⟩ | ⟨-, -, -, drained⟩ | ⟨-, -, -, drained⟩
  · rw [ready.sent (same.symm.trans pending)] at sent
    exact (List.append_eq_nil_iff.mp sent).2
  · exact drained
  · exact drained
  · exact drained

/-- Turns keep it so. -/
theorem after (ready : b.Ready) (turns : List Turn) : (b.after turns).Ready := by
  induction turns generalizing b with
  | nil => exact ready
  | cons t turns ih => exact ih (ready.turn t)

/-- If no report waits, none waits after turns. -/
theorem drained_after (ready : b.Ready) (drained : b.waiting = []) (turns : List Turn) :
    (b.after turns).waiting = [] := by
  induction turns generalizing b with
  | nil => exact drained
  | cons t turns ih =>
    refine ih (ready.turn t) ?_
    rcases ready.matched.effect t with
      ⟨-, -, sent, -⟩ | ⟨-, -, -, -, drained', -⟩ | ⟨-, -, -, drained', -⟩ | ⟨-, -, -, drained', -⟩
    · rw [drained] at sent
      exact (List.append_eq_nil_iff.mp sent).2
    · exact drained'
    · exact drained'
    · exact drained'

/-- After a toggle a report is pending, and the toggle itself reports nothing. -/
theorem opens_of_toggles (ready : b.Ready) {t : Turn} (toggles : b.Toggles t) :
    (b.turn t).2.editor.pending = true ∧ reports (b.turn t).1 = b.waiting := by
  rcases ready.matched.effect t with
    ⟨-, -, -, untoggled, -⟩ | ⟨-, pending, -, sent, -⟩ | ⟨-, -, -, -, untoggled⟩ |
    ⟨-, -, -, -, untoggled⟩
  · exact absurd toggles untoggled
  · exact ⟨pending, sent⟩
  · exact absurd toggles untoggled
  · exact absurd toggles untoggled

/-- After the host's list, or an edit that moves a verified marker, nothing is pending, and no
report waits. -/
theorem settled_of_closes (ready : b.Ready) {t : Turn} (closes : b.TakesOver t ∨ b.Drifts t) :
    (b.turn t).2.editor.pending = false ∧ (b.turn t).2.waiting = [] := by
  rcases ready.matched.effect t with
    ⟨-, -, -, -, other⟩ | ⟨-, -, -, -, -, other⟩ | ⟨-, settled, -, drained, -⟩ |
    ⟨-, settled, -, drained, -⟩
  · exact absurd closes (not_or.mpr other)
  · exact absurd closes (not_or.mpr other)
  · exact ⟨settled, drained⟩
  · exact ⟨settled, drained⟩

/-! ## Without a window -/

/-- **Nothing pending, nothing reported.** Without a toggle or an edit that moves a verified marker
nothing becomes pending and nothing is reported. -/
theorem silent (ready : b.Ready) (settled : b.editor.pending = false) (drained : b.waiting = [])
    {later : List Turn} (undisturbed : Always (fun c u => ¬ c.Toggles u ∧ ¬ c.Drifts u) b later) :
    reports (b.written later) = [] ∧ (b.after later).editor.pending = false ∧
      (b.after later).waiting = [] := by
  induction later generalizing b with
  | nil => exact ⟨rfl, settled, drained⟩
  | cons u later ih =>
    obtain ⟨⟨untoggled, undrifted⟩, undisturbed⟩ := undisturbed
    rw [written_cons, after_cons, reports_append]
    rcases ready.matched.effect u with
      ⟨same, -, sent, -⟩ | ⟨toggles, -⟩ | ⟨-, settled', sent, drained', -⟩ | ⟨cause, -⟩
    · rw [drained, List.append_eq_nil_iff] at sent
      rw [sent.1]
      exact ih (ready.turn u) (same.trans settled) sent.2 undisturbed
    · exact absurd toggles untoggled
    · rw [sent, drained]
      exact ih (ready.turn u) settled' drained' undisturbed
    · rcases cause with drifts | pending
      · exact absurd drifts undrifted
      · exact nomatch settled.symm.trans pending

/-! ## While a window is open -/

/-- **One window, one report.** While a report is pending before each turn, at most the last one
reports, and then the breakpoints as they are after it. -/
theorem once (ready : b.Ready) (pending : b.editor.pending = true) {later : List Turn}
    (opened : Always (fun c _ => c.editor.pending = true) b later) :
    reports (b.written later) = [] ∨
      reports (b.written later) = [(b.after later).editor.markers.canonical] ∧
        (b.after later).editor.pending = false := by
  induction later generalizing b with
  | nil => exact .inl rfl
  | cons u later ih =>
    have drained := ready.sent pending
    -- once nothing is pending the window is over, so no turn is left
    have ended (settled : (b.turn u).2.editor.pending = false) : later = [] := by
      cases later with
      | nil => rfl
      | cons v later => exact nomatch settled.symm.trans opened.2.1
    rw [written_cons, after_cons, reports_append]
    rcases ready.matched.effect u with
      ⟨same, -, sent, -⟩ | ⟨-, pending', -, sent, -⟩ | ⟨-, settled, sent, -⟩ | ⟨-, settled, sent, -⟩
    · rw [drained, List.append_eq_nil_iff] at sent
      rw [sent.1]
      exact ih (ready.turn u) (same.trans pending) opened.2
    · rw [sent, drained]
      exact ih (ready.turn u) pending' opened.2
    · obtain rfl := ended settled
      rw [sent, drained]
      exact .inl rfl
    · obtain rfl := ended settled
      rw [sent, drained]
      exact .inr ⟨rfl, settled⟩

/-- **Nothing pending is lost.** What is pending stays so until the host's list is taken over or
the breakpoints are reported. -/
theorem told (ready : b.Ready) (pending : b.editor.pending = true) (later : List Turn) :
    Sometime (fun c u => c.TakesOver u ∨ c.Reports u) b later ∨
      (b.after later).editor.pending = true := by
  induction later generalizing b with
  | nil => exact .inr pending
  | cons u later ih =>
    have drained := ready.sent pending
    rcases ready.matched.effect u with
      ⟨same, -⟩ | ⟨-, pending', -⟩ | ⟨takesOver, -⟩ | ⟨-, -, sent, -⟩
    · exact (ih (ready.turn u) (same.trans pending)).imp_left .inr
    · exact (ih (ready.turn u) pending').imp_left .inr
    · exact .inl (.inl (.inl takesOver))
    · rw [drained] at sent
      exact .inl (.inl (.inr sent))

/-! ## The end of the input -/

/-- At the end of the input what is pending is reported. -/
theorem finish (ready : b.Ready) (ended : b.received = []) (running : b.stopped = none) :
    b.finish.2.editor.pending = false ∧ (b.editor.pending = true →
      reports b.finish.1 = [b.finish.2.editor.markers.canonical]) := by
  have expired : b.finish = b.expire := by
    rw [finish_of_ended b ended, running]
    rfl
  rw [expired]
  refine ⟨b.pending_expire, fun pending => ?_⟩
  rw [reports_expire, ready.sent pending, if_pos pending]
  rfl

/-- At the end of the input nothing is reported if nothing is pending. -/
theorem finish_silent (ended : b.received = []) (settled : b.editor.pending = false)
    (drained : b.waiting = []) : reports b.finish.1 = [] := by
  rw [finish_of_ended b ended]
  split_ifs
  · rfl
  · rw [reports_expire, drained, settled]
    rfl

end Ready

/-! ## Where a deadline comes from -/

/-- The turn opened a window that is open throughout `later`, and ends `delay` after the turn. -/
structure OpenedBy (b : Bridge) (delay : Nat) (t : Turn) (later : List Turn) : Prop where
  settled : b.editor.pending = false
  toggles : b.Toggles t
  throughout : Always (fun c _ => c.editor.pending = true ∧ c.deadline = some (b.now + delay))
    (b.turn t).2 later
  deadline : (b.after (t :: later)).deadline = some (b.now + delay)

/-- **The deadline of a window.** If a report is pending, then some turn opened a window, which has
been open since, and its deadline has not been moved. -/
theorem Ready.exists_openedBy (ready : b.Ready) (settled : b.editor.pending = false)
    (turns : List Turn) (pending : (b.after turns).editor.pending = true) :
    ∃ before t later, turns = before ++ t :: later ∧
      (b.after before).OpenedBy b.delay t later := by
  induction turns using List.reverseRecOn with
  | nil => exact nomatch settled.symm.trans pending
  | append_singleton turns u ih =>
    have matched := (ready.after turns).matched
    have last : b.after (turns ++ [u]) = ((b.after turns).turn u).2 := by
      rw [after_append, after_cons, after_nil]
    rw [last] at pending
    -- an open window goes on if the turn does not move its deadline
    have goes_on (pending' : (b.after turns).editor.pending = true)
        (same : ((b.after turns).turn u).2.deadline = (b.after turns).deadline) :
        ∃ before t later, turns ++ [u] = before ++ t :: later ∧
          (b.after before).OpenedBy b.delay t later := by
      obtain ⟨before, t, later, split, opened⟩ := ih pending'
      have here : (b.after before).after (t :: later) = b.after turns := by
        rw [split, after_append]
      have deadline := opened.deadline
      rw [here] at deadline
      refine ⟨before, t, later ++ [u], by rw [split]; simp, opened.settled, opened.toggles, ?_, ?_⟩
      · refine opened.throughout.snoc ?_
        rw [← after_cons, here]
        exact ⟨pending', deadline⟩
      · rw [← List.cons_append, after_append, here, after_cons, after_nil, same]
        exact deadline
    rcases matched.effect u with
      ⟨same, deadline, -⟩ | ⟨toggles, -, deadline, -⟩ | ⟨-, settled', -⟩ | ⟨-, settled', -⟩
    · exact goes_on (same.symm.trans pending) deadline
    · by_cases pending' : (b.after turns).editor.pending = true
      · refine goes_on pending' (deadline.trans ?_)
        rw [← matched, Option.isSome_iff_exists] at pending'
        obtain ⟨time, opened⟩ := pending'
        rw [opened]
        rfl
      · have settled' := Bool.eq_false_of_not_eq_true pending'
        refine ⟨turns, u, [], rfl, settled', toggles, trivial, ?_⟩
        rw [after_cons, after_nil, deadline, matched.deadline_eq_none settled', delay_after]
        rfl
    · exact nomatch settled'.symm.trans pending
    · exact nomatch settled'.symm.trans pending

/-! ## The window -/

/-- **How the window is kept**, after turns at the head of the loop. -/
structure KeepsWindow (b : Bridge) (turns : List Turn) : Prop where
  /-- A deadline is set exactly while a report is pending. -/
  matched : (b.after turns).deadline.isSome = (b.after turns).editor.pending
  /-- It is the delay after the first toggle since nothing was pending, and has not been moved. -/
  opened : (b.after turns).editor.pending = true →
    ∃ before t later, turns = before ++ t :: later ∧ (b.after before).OpenedBy b.delay t later
  /-- The host's list and an edit that moves a verified marker close the window, and then nothing is
  reported until a later toggle, or until an edit moves a verified marker again. -/
  closed : ∀ t, (b.after turns).TakesOver t ∨ (b.after turns).Drifts t →
    ((b.after turns).turn t).2.editor.pending = false ∧
      ((b.after turns).turn t).2.deadline = none ∧
      ∀ later, Always (fun c u => ¬ c.Toggles u ∧ ¬ c.Drifts u) ((b.after turns).turn t).2 later →
        reports (((b.after turns).turn t).2.written later) = [] ∧
          reports (((b.after turns).turn t).2.after later).finish.1 = []
  /-- From the toggle that opens it to the turn that closes it, a window writes one report at most,
  of the breakpoints as they are then, after what waited before it. -/
  once : ∀ t later, (b.after turns).editor.pending = false → (b.after turns).Toggles t →
    Always (fun c _ => c.editor.pending = true) ((b.after turns).turn t).2 later →
      reports ((b.after turns).written (t :: later)) = (b.after turns).waiting ∨
        reports ((b.after turns).written (t :: later)) = (b.after turns).waiting ++
            [((b.after turns).after (t :: later)).editor.markers.canonical] ∧
          ((b.after turns).after (t :: later)).editor.pending = false
  /-- Nothing waits before a window unless it waited before the first turn. -/
  drained : b.waiting = [] → (b.after turns).waiting = []
  /-- After a toggle the host's list is taken over, or the breakpoints are reported as they are
  then, at the latest when the input ends. -/
  told : ∀ t later, (b.after turns).Toggles t →
    ((b.after turns).after (t :: later)).stopped = none →
      Sometime (fun c u => c.TakesOver u ∨ c.Reports u) ((b.after turns).turn t).2 later ∨
        reports ((b.after turns).after (t :: later)).finish.1 =
          [((b.after turns).after (t :: later)).finish.2.editor.markers.canonical]
  /-- When the input ends, an open window writes its one report, and nothing is pending then. -/
  ended : (b.after turns).stopped = none →
    (b.after turns).finish.2.editor.pending = false ∧ ((b.after turns).editor.pending = true →
      reports (b.after turns).finish.1 = [(b.after turns).finish.2.editor.markers.canonical])
  /-- Each report that is written, then or when the input ends, is an event with the text of its list. -/
  carried : ∀ later, ∀ m ∈ (b.after turns).written later ++ ((b.after turns).after later).finish.1,
    ∀ list, m.report? = some list → m.Carries list

/-- **The coalescing window.** From an editor with nothing pending, whatever the lines are, however
time passes, and in whichever order lines are served and windows end. -/
theorem keepsWindow (e : Editor) (delay : Nat) (idle : e.pending = false) (turns : List Turn) :
    (ofEditor e delay).KeepsWindow turns := by
  have start : (ofEditor e delay).Ready :=
    ⟨idle.symm, fun pending => nomatch idle.symm.trans pending⟩
  have ready := start.after turns
  have received (later : List Turn) :
      (((ofEditor e delay).after turns).after later).received = [] := by
    rw [received_after, received_after]
    rfl
  refine ⟨ready.matched, start.exists_openedBy idle turns, ?_, ?_, ?_, ?_, ?_,
    fun later m _ list => Message.carries_of_report?_eq_some⟩
  · intro t closes
    obtain ⟨settled, drained⟩ := ready.settled_of_closes closes
    have next := ready.turn t
    refine ⟨settled, next.matched.deadline_eq_none settled, fun later undisturbed => ?_⟩
    obtain ⟨silent, settled_later, drained_later⟩ := next.silent settled drained undisturbed
    exact ⟨silent, Ready.finish_silent (received (t :: later)) settled_later drained_later⟩
  · intro t later settled toggles opened
    obtain ⟨pending, sent⟩ := ready.opens_of_toggles toggles
    rw [written_cons, after_cons, reports_append, sent]
    rcases (ready.turn t).once pending opened with none | ⟨one, settled'⟩
    · rw [none]
      exact .inl (List.append_nil _)
    · rw [one]
      exact .inr ⟨rfl, settled'⟩
  · intro drained
    exact start.drained_after drained turns
  · intro t later toggles running
    have pending := (ready.opens_of_toggles toggles).1
    rcases (ready.turn t).told pending later with told | pending'
    · exact .inl told
    · exact .inr (((ready.after (t :: later)).finish (received _) running).2 pending')
  · intro running
    exact ready.finish (received []) running

/-- The report of a window is written with the text of the breakpoints as they are then. -/
theorem KeepsWindow.exists_carries {turns later : List Turn} {t : Turn} (kept : b.KeepsWindow turns)
    (drained : (b.after turns).waiting = []) (settled : (b.after turns).editor.pending = false)
    (toggles : (b.after turns).Toggles t)
    (opened : Always (fun c _ => c.editor.pending = true) ((b.after turns).turn t).2 later)
    (reported : reports ((b.after turns).written (t :: later)) ≠ []) :
    ∃ m ∈ (b.after turns).written (t :: later),
      m.Carries ((b.after turns).after (t :: later)).editor.markers.canonical := by
  rcases kept.once t later settled toggles opened with none | ⟨report, -⟩
  · exact absurd (none.trans drained) reported
  · rw [drained, List.nil_append] at report
    have mem_reports : ((b.after turns).after (t :: later)).editor.markers.canonical ∈
        reports ((b.after turns).written (t :: later)) := by
      rw [report]
      exact List.mem_singleton_self _
    obtain ⟨m, mem, reports⟩ := List.mem_filterMap.mp mem_reports
    exact ⟨m, mem, kept.carried (t :: later) m (List.mem_append_left _ mem) _ reports⟩

/-- The request that sets a first breakpoint. -/
def firstSet : Turn := .ascii "\x7b\"method\":\"toggleBreakpoint\",\"params\":[4]\x7d"

/-- Another breakpoint and a blank line fall into the window of the first one, and a line is served when
the window is already over. -/
def inWindow : List Turn :=
  [.wait 60, .ascii "\x7b\"method\":\"toggleBreakpoint\",\"params\":[2]\x7d", .ascii " ",
    .wait 60, .ascii "\x7b\"method\":\"getProblems\"\x7d", .timeout]

/-- A window of a hundred milliseconds, and another one: the host sends its list while a third breakpoint
waits to be reported. -/
def gathered : List Turn :=
  .wait 7 :: firstSet :: inWindow ++
    [.wait 5, .ascii "\x7b\"method\":\"toggleBreakpoint\",\"params\":[9]\x7d", .wait 50,
      .ascii "\x7b\"method\":\"decorateBreakpoints\",\"params\":[[]]\x7d", .wait 60, .timeout]

/-- One report is written, with the text of the first two breakpoints, when the window of the first is
over. -/
theorem keepsWindow_gathered :
    (default : Editor).pending = false ∧ (ofEditor default 100).KeepsWindow gathered ∧
      ((ofEditor default 100).after (gathered.take 7)).deadline = some 107 ∧
      ((ofEditor default 100).after (gathered.take 7)).now = 127 ∧
      ((ofEditor default 100).after (gathered.take 8)).editor.markers.canonical =
        [⟨2, true⟩, ⟨4, true⟩] ∧
      (reports ((ofEditor default 100).written (gathered.take 8))).length = 1 ∧
      (∃ m ∈ (ofEditor default 100).written (gathered.take 8),
        m.Carries [⟨2, true⟩, ⟨4, true⟩]) ∧
      (reports ((ofEditor default 100).written gathered)).length = 1 ∧
      ((ofEditor default 100).after gathered).deadline = none := by
  have idle : (default : Editor).pending = false := by decide +kernel
  have opening := keepsWindow default 100 idle [.wait 7]
  have turns : gathered.take 8 = [.wait 7] ++ firstSet :: inWindow := rfl
  have nothing : (ofEditor default 100).written [.wait 7] = [] := rfl
  have canonical : (((ofEditor default 100).after [.wait 7]).after
      (firstSet :: inWindow)).editor.markers.canonical = [⟨2, true⟩, ⟨4, true⟩] := by
    rw [Markers.canonical, Breakpoints.canonical_eq_ofList]
    decide +kernel
  have one : (reports (((ofEditor default 100).after [.wait 7]).written
      (firstSet :: inWindow))).length = 1 := by
    decide +kernel
  have toggles : ((ofEditor default 100).after [.wait 7]).Toggles firstSet :=
    ⟨.toggle 4, ⟨rfl, by decide +kernel⟩, trivial⟩
  have opened : Always (fun c _ => c.editor.pending = true)
      (((ofEditor default 100).after [.wait 7]).turn firstSet).2 inWindow := by
    simp only [inWindow, Always]
    decide +kernel
  have reported := List.ne_nil_of_length_pos (Nat.lt_of_lt_of_eq Nat.one_pos one.symm)
  have carries := opening.exists_carries (opening.drained rfl) rfl toggles opened reported
  rw [canonical] at carries
  rw [turns, after_append, written_append, nothing, List.nil_append]
  refine ⟨idle, keepsWindow default 100 idle gathered, ?_, ?_, canonical, one, carries, ?_, ?_⟩
  · decide +kernel
  · decide +kernel
  · decide +kernel
  · decide +kernel

end Bridge

end StepScript
