import StepScript.Bridge.Message
import StepScript.Bridge.Request
import StepScript.Text.Utf8

/-!
# The bridge: an editor served over lines of text

**The loop.** A host sends requests, one a line, and the bridge answers each with its reply or
failure and then with the events that the editor has for the host. A blank line is passed over. A
line that is no request fails without a method.

**The window.** A toggled breakpoint is not reported at once. The first toggle opens a window of
`delay` milliseconds, later ones fall into it, and when it is over the list is reported once
(`Bridge.expire`). Whatever else settles the report, such as the host's own list, closes the window
without a report; a window is open exactly as long as the editor has a report pending
(`Bridge.windowAfter`). The end of the input closes it too, with a report (`Bridge.finish`).

**Time and bytes.** Time is a number of milliseconds that is moved on from outside. Bytes gather
until a line is complete; a line that is not UTF-8 stops the bridge.
-/

namespace StepScript

/-- An editor and the state of its bridge. -/
structure Bridge where
  editor : Editor
  /-- How long toggles are gathered, in milliseconds. -/
  delay : Nat
  /-- The present time in milliseconds. -/
  now : Nat
  /-- When the open window is over. -/
  deadline : Option Nat
  /-- The bytes of a line that is not complete. -/
  received : List UInt8
  /-- Why the bridge has stopped. -/
  stopped : Option Text

namespace Bridge

/-- The bridge of an editor, before anything was sent. -/
def ofEditor (editor : Editor) (delay : Nat) : Bridge := ⟨editor, delay, 0, none, [], none⟩

/-- The bridge that settings describe. -/
def ofSettings (s : Settings) : Except Failure Bridge := do
  return ofEditor (← Editor.ofSettings s) s.reportDelay

/-! ## Requests -/

/-- Sends the events that the editor has. -/
def sendEvents (b : Bridge) : List Message × Bridge :=
  let (events, editor) := b.editor.drain
  (events.map Message.event, { b with editor })

/-- When the window is over, after a request: there is none if nothing is pending, an open one goes
on, and else one opens now. -/
def windowAfter (b : Bridge) : Option Nat :=
  if b.editor.pending then b.deadline.or (some (b.now + b.delay)) else none

/-- Serves a request: the messages that answer it, and the editor that it leaves behind. -/
def respond (editor : Editor) (r : Request) : List Message × Editor :=
  match (Editor.dispatch r).outcome editor with
  | (.ok none, left) => ([], left)
  | (.ok (some result), left) => ([.reply r.method result], left)
  | (.error refusal, left) => ([.failure r.method refusal.message], left)

/-- Answers a line, or says that it is no request. -/
def respondLine (editor : Editor) (line : Text) : List Message × Editor :=
  match Json.Decoder.decode? Request.decoder line with
  | some request => respond editor request
  | none => ([.failure [] "invalid request".toList], editor)

/-- Answers a line, and sends the events that the editor has then. -/
def handleLine (editor : Editor) (line : Text) : List Message × Editor :=
  let (answers, left) := respondLine editor line
  let (events, left) := left.drain
  (answers ++ events.map Message.event, left)

/-- Serves a line. A blank one is passed over. -/
def serveLine (b : Bridge) (line : Text) : List Message × Bridge :=
  if line.all isBlank then ([], b)
  else
    let (messages, editor) := handleLine b.editor line
    let b := { b with editor }
    (messages, { b with deadline := b.windowAfter })

/-! ## The window -/

/-- The window is over: a pending report is sent. -/
def expire (b : Bridge) : List Message × Bridge :=
  sendEvents { b with editor := b.editor.flush.2, deadline := none }

/-- Whether the window is over. -/
def isDue (b : Bridge) : Bool := b.stopped.isNone && b.deadline.any (· ≤ b.now)

/-- Closes the window if its time has come. -/
def settle (b : Bridge) : List Message × Bridge := if b.isDue then b.expire else ([], b)

/-- Moves time on. -/
def advance (b : Bridge) (milliseconds : Nat) : List Message × Bridge :=
  settle { b with now := b.now + milliseconds }

/-! ## Input -/

/-- The bytes of a line without its line ending. -/
def withoutEnding (line : List UInt8) : List UInt8 :=
  if line.getLast? = some 13 then line.dropLast else line

/-- Serves the bytes of a line. Once the bridge has stopped it serves no more. -/
def serveBytes (b : Bridge) (line : List UInt8) : List Message × Bridge :=
  if b.stopped.isSome then ([], b)
  else
    match Utf8.decode line with
    | .ok text => b.serveLine text
    | .error fault =>
      ([], { b with stopped := some ("failed to read host input: ".toList ++ fault.message) })

/-- Receives bytes, and serves each line that they complete. `taken` are the bytes of the line so
far, last one first. -/
def receiveFrom (b : Bridge) (taken : List UInt8) : List UInt8 → List Message × Bridge
  | [] => ([], { b with received := taken.reverse })
  | byte :: rest =>
    if byte = 10 then
      let (messages, b) := b.serveBytes (withoutEnding taken.reverse)
      let (more, b) := b.receiveFrom [] rest
      (messages ++ more, b)
    else b.receiveFrom (byte :: taken) rest

/-- Receives bytes. -/
def receive (b : Bridge) (bytes : List UInt8) : List Message × Bridge :=
  let (messages, b) := b.receiveFrom b.received.reverse bytes
  let (more, b) := b.settle
  (messages ++ more, b)

/-- The input has ended: a line that was not ended is served, and a pending report is sent. -/
def finish (b : Bridge) : List Message × Bridge :=
  let (messages, b) := if b.received = [] then ([], b) else b.serveBytes b.received
  if b.stopped.isSome then (messages, b)
  else
    let (more, b) := b.expire
    (messages ++ more, b)

end Bridge

end StepScript
