import Mathlib
import StepScript.Bridge
import StepScript.Proofs.Editor.Reporting

/-!
# A bridge takes one turn after another

**Turns.** At the head of its loop a bridge waits for a line or for the end of the window, whichever
comes first. A turn is what happens there (`Bridge.Turn`): a line is served, some time passes, or
the window ends, if its time has come. Turns may come in any order. In particular a line may be
served though the window is over, and any time may pass before the bridge looks at it.

**Runs.** `Bridge.after` and `Bridge.written` are the bridge after turns and what it has written by
then. The ways in which a bridge is driven are such runs: bytes that arrive give a turn for each
line they complete and one for the window (`Bridge.receive_eq_turns`), and time that passes gives
one for itself and one for the window (`Bridge.advance_eq_turns`). A line that was not ended when
the input ends is a last turn before the end (`Bridge.finish_eq_turn`).
-/

namespace StepScript.Bridge

/-- What happens at the head of the loop. -/
inductive Turn where
  /-- A line of the input is served. -/
  | line (bytes : List UInt8)
  /-- Time passes. -/
  | wait (milliseconds : Nat)
  /-- The window ends, if its time has come. -/
  | timeout
  deriving DecidableEq

/-- A line of ASCII characters. -/
def Turn.ascii (line : String) : Turn := .line (line.toList.map fun c => UInt8.ofNat c.toNat)

/-- The text of a line that is not blank. -/
def Turn.text? : Turn → Option Text
  | .line bytes =>
    match Utf8.decode bytes with
    | .ok text => if text.all isBlank then none else some text
    | .error _ => none
  | _ => none

/-- A turn: what is written, and the bridge after it. -/
def turn (b : Bridge) : Turn → List Message × Bridge
  | .line bytes => b.serveBytes bytes
  | .wait milliseconds => ([], { b with now := b.now + milliseconds })
  | .timeout => b.settle

/-- The bridge after turns. -/
def after (b : Bridge) : List Turn → Bridge
  | [] => b
  | t :: later => (b.turn t).2.after later

/-- What is written in turns. -/
def written (b : Bridge) : List Turn → List Message
  | [] => []
  | t :: later => (b.turn t).1 ++ (b.turn t).2.written later

variable (b : Bridge)

/-- Without a turn, the bridge is as it was. -/
@[simp] theorem after_nil : b.after [] = b := rfl

/-- Without a turn, nothing is written. -/
@[simp] theorem written_nil : b.written [] = [] := rfl

/-- The bridge after a first turn and others. -/
theorem after_cons (t : Turn) (later : List Turn) :
    b.after (t :: later) = (b.turn t).2.after later := rfl

/-- What is written in a first turn and others. -/
theorem written_cons (t : Turn) (later : List Turn) :
    b.written (t :: later) = (b.turn t).1 ++ (b.turn t).2.written later := rfl

/-- The bridge after turns in two parts. -/
@[simp] theorem after_append (earlier later : List Turn) :
    b.after (earlier ++ later) = (b.after earlier).after later := by
  induction earlier generalizing b with
  | nil => rfl
  | cons t earlier ih =>
    rw [List.cons_append, after_cons, after_cons]
    exact ih _

/-- What is written in turns in two parts. -/
theorem written_append (earlier later : List Turn) :
    b.written (earlier ++ later) = b.written earlier ++ (b.after earlier).written later := by
  induction earlier generalizing b with
  | nil => rfl
  | cons t earlier ih =>
    rw [List.cons_append, written_cons, written_cons, after_cons, ih, List.append_assoc]

/-! ## What a turn can be -/

/-- The bridge after a line that is not blank. -/
def answered (b : Bridge) (line : Text) : Bridge :=
  let served := { b with editor := (handleLine b.editor line).2 }
  { served with deadline := served.windowAfter }

/-- What a turn comes to. -/
inductive Served (b : Bridge) (t : Turn) : Prop
  /-- Nothing is asked and the window does not end. -/
  | idle (left : Bridge) (unasked : b.stopped = none → t.text? = none)
      (still : b.turn t = ([], left)) (editor : left.editor = b.editor)
      (deadline : left.deadline = b.deadline) (delay : left.delay = b.delay)
  /-- A line is answered. -/
  | line (text : Text) (asked : t.text? = some text) (running : b.stopped = none)
      (answer : b.turn t = ((handleLine b.editor text).1, b.answered text))
  /-- The window ends. -/
  | timeout (timer : t = .timeout) (opened : b.deadline.isSome) (expired : b.turn t = b.expire)

/-- A line is answered if it is not blank and the bridge has not stopped. -/
theorem served_line (bytes : List UInt8) : b.Served (.line bytes) := by
  by_cases running : b.stopped.isSome
  · refine .idle b (fun none => ?_) (if_pos running) rfl rfl rfl
    rw [none] at running
    exact absurd running Bool.false_ne_true
  · have decoded : b.turn (.line bytes) =
        match Utf8.decode bytes with
        | .ok text => b.serveLine text
        | .error fault =>
          ([], { b with
            stopped := some ("failed to read host input: ".toList ++ fault.message) }) :=
      if_neg running
    cases read : Utf8.decode bytes with
    | error fault =>
      rw [read] at decoded
      exact .idle _ (fun _ => by rw [Turn.text?, read]) decoded rfl rfl rfl
    | ok text =>
      rw [read] at decoded
      by_cases blank : text.all isBlank
      · refine .idle b (fun _ => ?_) (decoded.trans (if_pos blank)) rfl rfl rfl
        rw [Turn.text?, read]
        exact if_pos blank
      · refine .line text ?_ (Option.not_isSome_iff_eq_none.mp running)
          (decoded.trans (if_neg blank))
        rw [Turn.text?, read]
        exact if_neg blank

/-- The window ends if its time has come. -/
theorem served_timeout : b.Served .timeout := by
  by_cases due : b.isDue
  · have past : b.deadline.any (· ≤ b.now) := (Bool.and_eq_true_iff.mp due).2
    refine .timeout rfl ?_ (if_pos due)
    cases none : b.deadline with
    | none => rw [none] at past; exact nomatch past
    | some time => rfl
  · exact .idle b (fun _ => rfl) (if_neg due) rfl rfl rfl

/-- **What a turn can be**: it does nothing to the editor, it answers a line, or it ends the
window. -/
theorem served (t : Turn) : b.Served t := by
  cases t with
  | line bytes => exact b.served_line bytes
  | wait milliseconds => exact .idle _ (fun _ => rfl) rfl rfl rfl rfl
  | timeout => exact b.served_timeout

/-! ## The head of the loop -/

/-- A window is open exactly while a report is pending. -/
def Matched (b : Bridge) : Prop := b.deadline.isSome = b.editor.pending

/-- When the window ends, nothing is pending. -/
theorem pending_expire : b.expire.2.editor.pending = false := b.editor.pending_flush

/-- After a line is answered, a window is open exactly while a report is pending. -/
theorem matched_answered (line : Text) : (b.answered line).Matched := by
  unfold Matched answered windowAfter
  simp only
  split_ifs with pending
  · rw [pending]
    cases b.deadline <;> rfl
  · exact (Bool.eq_false_of_not_eq_true pending).symm

variable {b} in
/-- A turn keeps it so. -/
theorem Matched.turn (h : b.Matched) (t : Turn) : (b.turn t).2.Matched := by
  rcases b.served t with
    ⟨left, -, still, editor, deadline, -⟩ | ⟨line, -, -, answer⟩ | ⟨-, -, expired⟩
  · rw [still, Matched, editor, deadline]
    exact h
  · rw [answer]
    exact b.matched_answered line
  · rw [expired, Matched, b.pending_expire]
    rfl

variable {b} in
/-- Nor does any number of turns change that. -/
theorem Matched.after (h : b.Matched) (turns : List Turn) : (b.after turns).Matched := by
  induction turns generalizing b with
  | nil => exact h
  | cons t turns ih => exact ih (h.turn t)

variable {b} in
/-- A line that leaves a report pending or not does not move the deadline. -/
theorem Matched.deadline_answered (h : b.Matched) {line : Text}
    (same : (b.answered line).editor.pending = b.editor.pending) :
    (b.answered line).deadline = b.deadline := by
  have after : (b.answered line).deadline =
      if (b.answered line).editor.pending then b.deadline.or (some (b.now + b.delay)) else none :=
    rfl
  rw [after, same, ← h]
  cases b.deadline <;> rfl

variable {b} in
/-- Without a pending report no window is open. -/
theorem Matched.deadline_eq_none (h : b.Matched) (settled : b.editor.pending = false) :
    b.deadline = none := by
  rw [Matched, settled] at h
  exact Option.isNone_iff_eq_none.mp (Option.isSome_eq_false_iff.mp h)

/-- If no event waits, none waits after turns: each takes what its line or its window has queued. -/
theorem quiet_after (quiet : b.editor.outbox = []) (turns : List Turn) :
    (b.after turns).editor.outbox = [] := by
  induction turns generalizing b with
  | nil => exact quiet
  | cons t turns ih =>
    refine ih (b.turn t).2 ?_
    rcases b.served t with
      ⟨left, -, still, editor, -, -⟩ | ⟨line, -, -, answer⟩ | ⟨-, -, expired⟩
    · rw [still, editor, quiet]
    · rw [answer]
      rfl
    · rw [expired]
      rfl

/-! ## What stays -/

/-- Serving a line changes the editor, the deadline and whether the bridge has stopped, and it
does not look at the bytes of the line to come. -/
theorem serveBytes_received (bytes rest : List UInt8) :
    { b with received := rest }.serveBytes bytes =
      ((b.serveBytes bytes).1, { (b.serveBytes bytes).2 with received := rest }) := by
  unfold serveBytes
  split_ifs with stopped
  · rfl
  · cases Utf8.decode bytes with
    | error fault => rfl
    | ok text =>
      simp only
      unfold serveLine
      split_ifs <;> rfl

/-- The delay is set once. -/
theorem delay_turn (t : Turn) : (b.turn t).2.delay = b.delay := by
  rcases b.served t with ⟨left, -, still, -, -, delay⟩ | ⟨line, -, -, answer⟩ | ⟨-, -, expired⟩
  · rw [still]
    exact delay
  · rw [answer]
    rfl
  · rw [expired]
    rfl

/-- The delay stays. -/
@[simp] theorem delay_after (turns : List Turn) : (b.after turns).delay = b.delay := by
  induction turns generalizing b with
  | nil => rfl
  | cons t turns ih => exact (ih _).trans (b.delay_turn t)

/-- Nor does the end of the window look at these. -/
theorem settle_received (rest : List UInt8) :
    { b with received := rest }.settle =
      (b.settle.1, { b.settle.2 with received := rest }) := by
  have same : { b with received := rest }.isDue = b.isDue := rfl
  unfold settle
  rw [same]
  split_ifs <;> rfl

/-- No turn looks at the bytes of the line to come. -/
theorem turn_received (t : Turn) (rest : List UInt8) :
    { b with received := rest }.turn t =
      ((b.turn t).1, { (b.turn t).2 with received := rest }) := by
  cases t with
  | line bytes => exact b.serveBytes_received bytes rest
  | wait milliseconds => rfl
  | timeout => exact b.settle_received rest

/-- Nor do any turns. -/
theorem run_received (turns : List Turn) (rest : List UInt8) :
    { b with received := rest }.written turns = b.written turns ∧
      { b with received := rest }.after turns = { b.after turns with received := rest } := by
  induction turns generalizing b with
  | nil => exact ⟨rfl, rfl⟩
  | cons t turns ih =>
    obtain ⟨same_written, same_after⟩ := ih (b.turn t).2
    rw [written_cons, written_cons, after_cons, after_cons, turn_received]
    exact ⟨congrArg _ same_written, same_after⟩

/-- Turns leave the bytes of the line to come alone. -/
@[simp] theorem received_after (turns : List Turn) : (b.after turns).received = b.received := by
  have same : b.after turns = { b.after turns with received := b.received } :=
    (b.run_received turns b.received).2
  rw [same]

/-! ## How a bridge is driven -/

/-- Bytes that arrive are turns for the lines that they complete. -/
theorem receiveFrom_eq_turns (taken bytes : List UInt8) :
    ∃ (lines : List (List UInt8)) (rest : List UInt8), b.receiveFrom taken bytes =
      (b.written (lines.map .line), { b.after (lines.map .line) with received := rest }) := by
  induction bytes generalizing b taken with
  | nil => exact ⟨[], taken.reverse, rfl⟩
  | cons byte bytes ih =>
    unfold receiveFrom
    by_cases ended : byte = 10
    · obtain ⟨lines, rest, more⟩ := ih (b.serveBytes (withoutEnding taken.reverse)).2 []
      refine ⟨withoutEnding taken.reverse :: lines, rest, ?_⟩
      rw [if_pos ended]
      simp only [more]
      rfl
    · rw [if_neg ended]
      exact ih b (byte :: taken)

/-- Bytes that arrive are turns for the lines that they complete, and one for the window. -/
theorem receive_eq_turns (bytes : List UInt8) :
    ∃ (lines : List (List UInt8)) (rest : List UInt8), b.receive bytes =
      (b.written (lines.map .line ++ [.timeout]),
        { b.after (lines.map .line ++ [.timeout]) with received := rest }) := by
  obtain ⟨lines, rest, served⟩ := b.receiveFrom_eq_turns b.received.reverse bytes
  refine ⟨lines, rest, ?_⟩
  unfold receive
  simp only [served, settle_received, written_append, after_append]
  rw [written_cons, written_nil, List.append_nil]
  rfl

/-- Time that passes is a turn for itself, and one for the window. -/
theorem advance_eq_turns (milliseconds : Nat) :
    b.advance milliseconds =
      (b.written [.wait milliseconds, .timeout], b.after [.wait milliseconds, .timeout]) := by
  rw [written_cons, written_cons, written_nil, List.append_nil]
  rfl

/-- If every line was ended, the end of the input only closes the window. -/
theorem finish_of_ended (ended : b.received = []) :
    b.finish = if b.stopped.isSome then ([], b) else b.expire := by
  unfold finish
  rw [if_pos ended]
  rfl

/-- A line that was not ended is a last turn before the end of the input. -/
theorem finish_eq_turn (last : b.received ≠ []) :
    b.finish.1 = b.written [.line b.received] ++
        { b.after [.line b.received] with received := [] }.finish.1 ∧
      b.finish.2.editor = { b.after [.line b.received] with received := [] }.finish.2.editor := by
  have served : b.finish =
      if (b.after [.line b.received]).stopped.isSome then
        (b.written [.line b.received], b.after [.line b.received])
      else
        (b.written [.line b.received] ++ (b.after [.line b.received]).expire.1,
          (b.after [.line b.received]).expire.2) := by
    unfold finish
    rw [if_neg last, written_cons, written_nil, List.append_nil]
    rfl
  rw [served, finish_of_ended _ rfl]
  cases (b.after [.line b.received]).stopped with
  | none => exact ⟨rfl, rfl⟩
  | some reason => exact ⟨(List.append_nil _).symm, rfl⟩

end StepScript.Bridge
