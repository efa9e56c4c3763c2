import StepScript.Table

/-!
# Timers: what waits for a document to rest

A timer is started for a document and runs on its own: it goes off at its time, unless it was
stopped before. What has been started is not at hand any more. There is only a number for each
document, that of the timer started last for it, and by this number the timer is stopped when
another one is started or the document is closed (`Timers.stop`). The number is not withdrawn when
its timer goes off, so it may lead nowhere.
-/

namespace StepScript.LanguageServer

/-- A timer that was started for a document and has not ended. -/
structure Timer where
  /-- No other timer of a server has this number. -/
  number : Nat
  /-- The name of the document. -/
  uri : Text
  /-- The time at which it goes off. -/
  deadline : Nat
  /-- Whether it was told to end without going off. -/
  stopped : Bool
  deriving DecidableEq, Repr

/-- The timers of a server. -/
structure Timers where
  /-- The timers that have not ended, in the order in which they were started. -/
  running : List Timer
  /-- The number of the timer started last for a document, unless that was stopped. -/
  latest : Table Nat
  /-- The number of timers started so far. -/
  started : Nat

namespace Timers

/-- No timer was started. -/
def none : Timers := ⟨[], .empty, 0⟩

/-- The timers that will go off. -/
def live (ts : Timers) : List Timer := ts.running.filter fun t => !t.stopped

/-- Tells the timer with a number to end. -/
def stopNumber (number : Nat) (t : Timer) : Timer :=
  if t.number = number then { t with stopped := true } else t

/-- Stops the timer started last for a document, if there is one. -/
def stop (ts : Timers) (uri : Text) : Timers :=
  match ts.latest.find? uri with
  | .none => ts
  | some number =>
    { ts with running := ts.running.map (stopNumber number), latest := ts.latest.erase uri }

/-- Starts a timer for a document. -/
def start (ts : Timers) (uri : Text) (deadline : Nat) : Timers :=
  ⟨ts.running ++ [⟨ts.started, uri, deadline, false⟩], ts.latest.insert uri ts.started,
    ts.started + 1⟩

/-- Starts a timer for a document in the place of the one before. -/
def restart (ts : Timers) (uri : Text) (deadline : Nat) : Timers :=
  (ts.stop uri).start uri deadline

/-- The timers that go off until a time. -/
def due (ts : Timers) (now : Nat) : List Timer := ts.live.filter (·.deadline ≤ now)

/-- The timers left after that. Stopped ones have ended as well. -/
def left (ts : Timers) (now : Nat) : Timers :=
  { ts with running := ts.live.filter (now < ·.deadline) }

/-- The time at which the next timer goes off. -/
def next? (ts : Timers) : Option Nat := (ts.live.map Timer.deadline).min?

end Timers

end StepScript.LanguageServer
