import StepScript.Marker.Breakpoint

/-!
# Events: what an editor tells its host

An event has a kind and, for some kinds, a payload: the line of the cursor, or the breakpoints. The
payload is sent as a text of its own inside the event, so breakpoints are written as data first
(`Event.payload?`).
-/

namespace StepScript

/-- The kinds of events. -/
inductive EventKind where
  | startDebugging
  | startDebuggingAtStep
  | startDebuggingAtStepAndContinue
  | startDebuggingAtEntry
  | updateBreakpoints
  | stepOver
  | contentDidChange
  deriving DecidableEq, Repr

namespace EventKind

/-- All kinds of events. -/
def all : List EventKind :=
  [startDebugging, startDebuggingAtStep, startDebuggingAtStepAndContinue, startDebuggingAtEntry,
    updateBreakpoints, stepOver, contentDidChange]

/-- The name of a kind. -/
def name : EventKind → String
  | startDebugging => "START_DEBUGGING"
  | startDebuggingAtStep => "START_DEBUGGING_AT_STEP"
  | startDebuggingAtStepAndContinue => "START_DEBUGGING_AT_STEP_AND_CONTINUE"
  | startDebuggingAtEntry => "START_DEBUGGING_AT_ENTRY"
  | updateBreakpoints => "UPDATE_BREAKPOINTS"
  | stepOver => "STEP_OVER"
  | contentDidChange => "CONTENT_DID_CHANGE"

/-- The kind with a name. -/
def ofName? (name : Text) : Option EventKind := all.find? fun kind => kind.name.toList = name

end EventKind

/-- What an editor tells its host. -/
inductive Event where
  | startDebugging
  | startDebuggingAtStep (line : Nat)
  | startDebuggingAtStepAndContinue (line : Nat)
  | startDebuggingAtEntry
  /-- All breakpoints, after they changed. -/
  | updateBreakpoints (list : List Breakpoint)
  | stepOver (line : Nat)
  | contentDidChange
  deriving DecidableEq, Repr

namespace Event

/-- The kind of an event. -/
def kind : Event → EventKind
  | startDebugging => .startDebugging
  | startDebuggingAtStep _ => .startDebuggingAtStep
  | startDebuggingAtStepAndContinue _ => .startDebuggingAtStepAndContinue
  | startDebuggingAtEntry => .startDebuggingAtEntry
  | updateBreakpoints _ => .updateBreakpoints
  | stepOver _ => .stepOver
  | contentDidChange => .contentDidChange

/-- The text that is sent with an event. -/
def payload? : Event → Option Text
  | startDebugging | startDebuggingAtEntry | contentDidChange => none
  | startDebuggingAtStep line | startDebuggingAtStepAndContinue line | stepOver line =>
    some (Text.ofNat line)
  | updateBreakpoints list => some (Json.Value.array (list.map Breakpoint.toValue)).compact

/-- An event as data. -/
def toValue (e : Event) : Json.Value :=
  .record (("event", .ofString e.kind.name) ::
    (e.payload?.map fun payload => ("payload", Json.Value.string payload)).toList)

end Event

end StepScript
