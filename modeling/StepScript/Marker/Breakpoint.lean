import StepScript.Json.Decode
import StepScript.Marker.Anchor

/-!
# Breakpoints

**Markers.** A breakpoint is kept as a marker on an anchor, so it stays with its line while the
document is edited. A marker that the user sets is unverified until the host sends its list of
breakpoints, which replaces all markers and is taken as it is (`decorate`).

**Reports.** The host holds a list of breakpoints of its own. It is told about a change in two ways:
a toggle makes a report pending, which is sent when its time comes (`flush?`), and an edit that
moves a verified marker is reported at once (`checkDrift`). Both send the canonical list: one entry
per line, in the order of the lines, and where markers share a line the first one counts.

**The hint.** While the pointer is over the gutter of a line without a marker, a hint is shown
there. It has an anchor but is no breakpoint.
-/

namespace StepScript

/-- A breakpoint as it is exchanged with the host. -/
structure Breakpoint where
  line : Nat
  enabled : Bool
  deriving DecidableEq, Repr

namespace Breakpoint

/-- The breakpoint that a tree writes. -/
def decoder : Json.Decoder Breakpoint := fun depth tree => do
  let (inner, fields) ← Json.Decoder.fields? ["lineNumber", "enable"] depth tree
  match fields with
  | [line, enable] =>
    some {
      line := ← Json.Decoder.required Json.Decoder.line inner line
      enabled := ← Json.Decoder.required Json.Decoder.bool inner enable }
  | _ => none

/-- A breakpoint as it is written in events. -/
def toValue (b : Breakpoint) : Json.Value :=
  .record [("lineNumber", .ofNat b.line), ("enable", .bool b.enabled)]

end Breakpoint

/-- Whether the host has confirmed a marker. -/
inductive MarkerState where
  /-- Set by the user. -/
  | unverified
  /-- Sent by the host. -/
  | verified
  deriving DecidableEq, Repr

/-- A breakpoint that follows its line. -/
structure Marker where
  anchor : AnchorId
  /-- The range of the anchor when the marker was last reported or set. -/
  seen : LineRange
  enabled : Bool
  state : MarkerState
  deriving DecidableEq, Repr

/-- The breakpoint markers of a document. -/
structure Breakpoints where
  /-- The markers in the order in which they were set. -/
  markers : List Marker
  /-- The anchor of the hint. -/
  hint : Option AnchorId
  /-- Whether a toggle waits to be reported. -/
  pending : Bool
  deriving DecidableEq, Repr

namespace Breakpoints

/-- No markers. -/
def empty : Breakpoints := ⟨[], none, false⟩

instance : Inhabited Breakpoints := ⟨empty⟩

/-! ## Questions -/

/-- The line of the hint. -/
def hintLine? (b : Breakpoints) (anchors : Anchors) : Option Nat := b.hint.bind anchors.line?

/-- The first marker that is on a line now. -/
def markerAt? (b : Breakpoints) (anchors : Anchors) (line : Nat) : Option Marker :=
  b.markers.find? fun m => anchors.line? m.anchor = some line

/-- The state of the marker on a line. -/
def stateAt? (b : Breakpoints) (anchors : Anchors) (line : Nat) : Option MarkerState :=
  (b.markerAt? anchors line).map Marker.state

/-- The breakpoints at the present lines of the markers, in the order of the markers. -/
def placed (b : Breakpoints) (anchors : Anchors) : List Breakpoint :=
  b.markers.filterMap fun m => (anchors.line? m.anchor).map fun line => ⟨line, m.enabled⟩

/-- The first breakpoint of each line, in the order given. -/
def firstPerLine : List Breakpoint → List Breakpoint
  | [] => []
  | b :: rest => b :: (firstPerLine rest).filter (·.line ≠ b.line)

/-- The breakpoints to report: one per line, in the order of the lines. -/
def canonical (b : Breakpoints) (anchors : Anchors) : List Breakpoint :=
  (firstPerLine (b.placed anchors)).mergeSort (fun x y => x.line ≤ y.line)

/-! ## Changes -/

/-- Removes the hint. -/
def clearHint (b : Breakpoints) (anchors : Anchors) : Breakpoints × Anchors :=
  ({ b with hint := none }, anchors.removeAll b.hint.toList)

/-- The pointer moved over the gutter of a line, or left the gutter. -/
def hover (b : Breakpoints) (anchors : Anchors) (line : Option Nat) : Breakpoints × Anchors :=
  let (b, anchors) := b.clearHint anchors
  match line with
  | none => (b, anchors)
  | some line =>
    if (b.markerAt? anchors line).isSome then (b, anchors)
    else
      let (id, anchors) := anchors.create (.ofLine line)
      ({ b with hint := some id }, anchors)

/-- Adds a marker to the end. -/
def addMarker (state : MarkerState) (added : Breakpoints × Anchors) (breakpoint : Breakpoint) :
    Breakpoints × Anchors :=
  let range := LineRange.ofLine breakpoint.line
  let (id, anchors) := added.2.create range
  let marker : Marker := ⟨id, range, breakpoint.enabled, state⟩
  ({ added.1 with markers := added.1.markers ++ [marker] }, anchors)

/-- Sets or removes the marker on a line, and says whether one was set. -/
def toggle (b : Breakpoints) (anchors : Anchors) (line : Nat) : Bool × Breakpoints × Anchors :=
  let (b, anchors) := b.clearHint anchors
  match b.markerAt? anchors line with
  | some marker =>
    (false, { b with markers := b.markers.erase marker, pending := true },
      anchors.remove marker.anchor)
  | none =>
    let (b, anchors) := addMarker .unverified (b, anchors) ⟨line, true⟩
    (true, { b with pending := true }, anchors)

/-- Replaces all markers by the host's list. Nothing is left to report. -/
def decorate (b : Breakpoints) (anchors : Anchors) (list : List Breakpoint) :
    Breakpoints × Anchors :=
  let anchors := anchors.removeAll (b.markers.map Marker.anchor)
  list.foldl (addMarker .verified) ({ b with markers := [], pending := false }, anchors)

/-- Whether a verified marker is no longer where it was seen. -/
def hasDrifted (anchors : Anchors) (m : Marker) : Bool :=
  m.state = .verified && anchors.resolve? m.anchor ≠ some m.seen

/-- The marker, seen where it is now. -/
def look (anchors : Anchors) (m : Marker) : Marker :=
  { m with seen := (anchors.resolve? m.anchor).getD m.seen }

/-- After an edit: markers whose anchor is gone are dropped, and if a verified marker has moved,
the list to report is given. -/
def checkDrift (b : Breakpoints) (anchors : Anchors) : Option (List Breakpoint) × Breakpoints :=
  let live := { b with markers := b.markers.filter fun m => (anchors.resolve? m.anchor).isSome }
  if live.markers.any (hasDrifted anchors) then
    let seen := { live with markers := live.markers.map (look anchors), pending := false }
    (some (seen.canonical anchors), seen)
  else (none, live)

/-- The time of a pending report has come: the list to report, if one is pending. -/
def flush (b : Breakpoints) (anchors : Anchors) : Option (List Breakpoint) × Breakpoints :=
  if b.pending then (some (b.canonical anchors), { b with pending := false }) else (none, b)

end Breakpoints

end StepScript
