import Mathlib
import StepScript.Proofs.Bridge.Turns
import StepScript.Proofs.Editor.InPlace

/-!
# A line that fails leaves no trace

**What fails.** A line fails if it is no request, or if its request is refused: the method is not
known, an argument is missing or of the wrong form, or a payload is. `Bridge.failure?` gives the
method and the reason that the host is told, if a line fails.

**What is left.** An editor serves a request in place, so a refusal could come after a change. It
does not (`Editor.left_of_refused`): whatever may be refused is read before the editor is changed.
So if no event waits, a line that fails is answered by one failure record and by no event, and the
editor is the one it was (`Bridge.handleLine_of_failure`). At the head of the loop the window is
not moved either, and from there everything goes on as if the line had not been sent
(`Bridge.turn_of_failure`).
-/

namespace StepScript

/-- **All or nothing.** The editor that a refused request leaves behind is the one that was asked,
whatever the method and the arguments. -/
theorem Editor.left_of_refused {e left : Editor} {r : Request} {refusal : Refusal}
    (refused : (dispatch r).outcome e = (.error refusal, left)) : left = e := by
  rw [outcome_dispatch] at refused
  cases served : e.serve r with
  | error _ =>
    rw [served] at refused
    exact (congrArg Prod.snd refused).symm
  | ok _ =>
    rw [served] at refused
    exact nomatch congrArg Prod.fst refused

namespace Bridge

variable {e : Editor} {line method error : Text}

/-- The method and the reason with which a line fails, if it does. -/
def failure? (e : Editor) (line : Text) : Option (Text × Text) :=
  match Json.Decoder.decode? Request.decoder line with
  | none => some ([], "invalid request".toList)
  | some r =>
    match ((Editor.dispatch r).outcome e).1 with
    | .error refusal => some (r.method, refusal.message)
    | .ok _ => none

/-- A line that fails is answered by its failure, and the editor stays. -/
theorem respondLine_of_failure (fails : failure? e line = some (method, error)) :
    respondLine e line = ([.failure method error], e) := by
  unfold failure? at fails
  unfold respondLine
  cases read : Json.Decoder.decode? Request.decoder line with
  | none =>
    rw [read] at fails
    obtain ⟨rfl, rfl⟩ := Prod.mk.inj (Option.some.inj fails)
    rfl
  | some r =>
    rw [read] at fails
    cases served : (Editor.dispatch r).outcome e with
    | mk result left =>
      simp only [served] at fails
      cases result with
      | ok _ => exact nomatch fails
      | error refusal =>
        obtain ⟨rfl, rfl⟩ := Prod.mk.inj (Option.some.inj fails)
        have same : left = e := Editor.left_of_refused served
        simp only [respond, served, same]

/-- If no event waits, that is all that is written. -/
theorem handleLine_of_failure (quiet : e.outbox = [])
    (fails : failure? e line = some (method, error)) :
    handleLine e line = ([.failure method error], e) := by
  unfold handleLine Editor.drain
  simp only [respondLine_of_failure fails, quiet, List.map_nil, List.append_nil]
  rw [← quiet]

variable {b : Bridge} {bytes : List UInt8}

/-- At the head of the loop the bridge is the same before and after a line that fails. -/
theorem turn_of_failure (quiet : b.editor.outbox = []) (matched : b.Matched)
    (running : b.stopped = none) (asked : Turn.text? (.line bytes) = some line)
    (fails : failure? b.editor line = some (method, error)) :
    b.turn (.line bytes) = ([.failure method error], b) := by
  have handled := handleLine_of_failure quiet fails
  rcases b.served (.line bytes) with
    ⟨left, unasked, -, -, -, -⟩ | ⟨text, asked', -, answer⟩ | ⟨timer, -, -⟩
  · rw [unasked running] at asked
    exact nomatch asked
  · obtain rfl : text = line := Option.some.inj (asked'.symm.trans asked)
    -- the editor is the same, so an open window goes on and none is opened
    have editor : (b.answered text).editor = b.editor := congrArg Prod.snd handled
    have deadline := matched.deadline_answered (congrArg Editor.pending editor)
    have same : b.answered text = { b with editor := (b.answered text).editor,
                                           deadline := (b.answered text).deadline } := rfl
    rw [answer, handled, same, editor, deadline]
  · exact nomatch timer

/-- **A line that fails leaves no trace.** A request that is refused leaves the editor as it was.
If no event waits, a line that is no request, or whose request is refused, is answered by exactly
one failure record and no event. At the head of the loop, whatever comes later is served, and
written, as if such a line had not been sent. -/
theorem failures_leave_no_trace :
    (∀ (e left : Editor) (r : Request) (refusal : Refusal),
      (Editor.dispatch r).outcome e = (.error refusal, left) → left = e) ∧
    (∀ (e : Editor) (line method error : Text), e.outbox = [] →
      failure? e line = some (method, error) →
      handleLine e line = ([.failure method error], e)) ∧
    ∀ (b : Bridge) (bytes : List UInt8) (line method error : Text) (later : List Turn),
      b.editor.outbox = [] → b.Matched → b.stopped = none →
      Turn.text? (.line bytes) = some line → failure? b.editor line = some (method, error) →
      b.after (.line bytes :: later) = b.after later ∧
        b.written (.line bytes :: later) = .failure method error :: b.written later := by
  refine ⟨?_, ?_, ?_⟩
  · intro e left r refusal refused
    exact Editor.left_of_refused refused
  · intro e line method error quiet fails
    exact handleLine_of_failure quiet fails
  · intro b bytes line method error later quiet matched running asked fails
    have turn := turn_of_failure quiet matched running asked fails
    rw [after_cons, written_cons, turn]
    exact ⟨rfl, rfl⟩

/-- A bridge with an open window, after a breakpoint was set. -/
def openWindow : Bridge :=
  (ofEditor default 100).after [.ascii "\x7b\"method\":\"toggleBreakpoint\",\"params\":[2]\x7d"]

/-- A replacement of lines whose last argument is wrong. -/
def wrongEdit : String := "\x7b\"method\":\"edit\",\"params\":[1,0,[\"a\",7]]\x7d"

/-- The replacement is refused, and the window ends when it would have ended without it. -/
theorem failures_leave_no_trace_wrongEdit :
    failure? openWindow.editor wrongEdit.toList =
        some ("edit".toList, "argument 3 must be a list of lines".toList) ∧
      (openWindow.after [.ascii wrongEdit, .wait 99]).deadline = some 100 ∧
      (openWindow.after [.ascii wrongEdit]).editor.markers =
        (openWindow.after []).editor.markers ∧
      openWindow.written [.ascii wrongEdit, .wait 100, .timeout] =
        .failure "edit".toList "argument 3 must be a list of lines".toList ::
          openWindow.written [.wait 100, .timeout] := by
  have start : (ofEditor default 100).Matched := by
    unfold Matched
    decide +kernel
  have matched : openWindow.Matched := by
    unfold openWindow
    exact start.after _
  have quiet : openWindow.editor.outbox = [] := by
    unfold openWindow
    exact quiet_after (ofEditor default 100) rfl _
  have asked : (Turn.ascii wrongEdit).text? = some wrongEdit.toList := by decide +kernel
  have fails : failure? openWindow.editor wrongEdit.toList =
      some ("edit".toList, "argument 3 must be a list of lines".toList) := by decide +kernel
  have no_trace (later : List Turn) := failures_leave_no_trace.2.2 openWindow _ _ _ _ later
    quiet matched (by decide +kernel) asked fails
  refine ⟨fails, ?_, ?_, (no_trace _).2⟩
  · have same : openWindow.after [.ascii wrongEdit, .wait 99] = openWindow.after [.wait 99] :=
      (no_trace _).1
    rw [same]
    decide +kernel
  · have same : openWindow.after [.ascii wrongEdit] = openWindow.after [] := (no_trace _).1
    rw [same]

end Bridge

end StepScript
