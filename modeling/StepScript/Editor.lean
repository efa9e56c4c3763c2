import StepScript.Context
import StepScript.Document
import StepScript.Event
import StepScript.Markers

/-!
# Editors

**One document.** An editor holds a document with its tables, its cursor and everything attached to
its lines. What follows from the document and the tables, its tokens and its problems, is kept
beside them and derived anew after each change of either (`Editor.refresh`).

**Edits.** An edit moves what is attached to the lines and then announces itself. If it moved a
breakpoint that the host knows, the host is told the new list right after.

**Events.** What the editor has to tell its host waits in the outbox until it is taken
(`Editor.drain`). A payload that is refused changes nothing.
-/

namespace StepScript

/-- A document under edit. -/
structure Editor where
  context : Context
  document : Document
  /-- The tokens of the document. -/
  tokens : List LineTokens
  /-- The problems of the document. -/
  problems : List Problem
  /-- The line of the cursor. -/
  cursor : Nat
  markers : Markers
  /-- The events that have not been taken, oldest first. -/
  outbox : List Event

/-- The commands that a user gives by keyboard. -/
inductive Command where
  | startDebugging
  | startDebuggingAtStep
  | startDebuggingAtStepAndContinue
  | startDebuggingAtEntry
  | stepOver
  | toggleBreakpoint
  deriving DecidableEq, Repr

/-- The lines that a tree names: one number, or a list of them. -/
def linesDecoder : Json.Decoder (List Nat) := fun depth tree =>
  match Json.Decoder.line depth tree with
  | some line => some [line]
  | none => Json.Decoder.list Json.Decoder.line depth tree

namespace Editor

/-- The editor with the tokens and problems of its document derived anew. -/
def refresh (e : Editor) : Editor :=
  { e with
    tokens := e.context.tokenize e.document.text
    problems := e.context.check e.document.text }

/-- An editor without a document. -/
def ofContext (context : Context) : Editor :=
  refresh {
    context
    document := .empty
    tokens := []
    problems := []
    cursor := 1
    markers := .empty
    outbox := [] }

instance : Inhabited Editor := ⟨ofContext default⟩

/-- The editor that settings describe. -/
def ofSettings (s : Settings) : Except Failure Editor := do
  return ofContext (← Context.ofSettings s)

/-- Puts an event into the outbox. -/
def fire (e : Editor) (event : Event) : Editor := { e with outbox := e.outbox ++ [event] }

/-- Reports breakpoints, if there is a list to report. -/
def report (e : Editor) (list : Option (List Breakpoint)) : Editor :=
  match list with
  | some list => e.fire (.updateBreakpoints list)
  | none => e

/-- Takes the events. -/
def drain (e : Editor) : List Event × Editor := (e.outbox, { e with outbox := [] })

/-- The text of the document. -/
def content (e : Editor) : Text := e.document.text

/-- The number of lines. -/
def lineCount (e : Editor) : Nat := e.document.lineCount

/-- Whether a toggled breakpoint waits to be reported. -/
def pending (e : Editor) : Bool := e.markers.breakpoints.pending

/-! ## The document -/

/-- Reports breakpoints that have moved. -/
def reportDrift (e : Editor) : Editor :=
  let (list, markers) := e.markers.checkDrift
  report { e with markers } list

/-- Replaces lines. -/
def edit (e : Editor) (change : Edit) : Editor :=
  let change := change.within e.lineCount
  let document := e.document.apply change
  let moved := { e with
    document
    markers := e.markers.replaceLines change.start change.deleted change.inserted.length
    cursor := max 1 (min e.cursor (max document.lineCount 1)) }
  ((moved.refresh).fire .contentDidChange).reportDrift

/-- Replaces the whole document. -/
def setContent (e : Editor) (t : Text) : Editor :=
  edit { e with document := e.document.withEndingsOf t } (e.document.replaceAll t)

/-! ## The tables -/

/-- The editor with other tables. -/
def withContext (e : Editor) (context : Context) : Editor := refresh { e with context }

/-- Replaces the host's keywords. -/
def setKeywords (e : Editor) (payload : Text) : Except Failure Editor := do
  return e.withContext (← e.context.setKeywords payload)

/-- Adds elements, or replaces them all if `clear`. -/
def setElements (e : Editor) (payload : Text) (clear : Bool) : Except Failure Editor := do
  return e.withContext (← e.context.setElements payload clear)

/-- Adds variables, or replaces them all if `clear`. -/
def setVariables (e : Editor) (payload : Text) (clear : Bool) : Except Failure Editor := do
  return e.withContext (← e.context.setVariables payload clear)

/-- Loads steps, after dropping the present ones if `clear`. -/
def setStepList (e : Editor) (payload : Text) (clear : Bool) : Except Failure Editor := do
  return e.withContext (← e.context.setStepList payload clear)

/-- Sets the message for unknown steps. -/
def setSyntaxMessage (e : Editor) (message : Text) : Editor :=
  e.withContext (e.context.setSyntaxMessage message)

/-! ## What is attached to lines -/

/-- The editor with other markers. -/
def withMarkers (e : Editor) (markers : Markers) : Editor := { e with markers }

/-- Takes over the host's list of breakpoints. -/
def decorate (e : Editor) (payload : Text) : Except Failure Editor := do
  let list ← readPayload .breakpoints (Json.Decoder.list Breakpoint.decoder) payload
  return e.withMarkers (e.markers.decorate list)

/-- Sets or removes the breakpoint on a line, and says whether one was set. -/
def toggle (e : Editor) (line : Nat) : Bool × Editor :=
  let (added, markers) := e.markers.toggle line
  (added, { e with markers })

/-- The pointer moved over the gutter of a line, or left the gutter. -/
def hover (e : Editor) (line : Option Nat) : Editor := e.withMarkers (e.markers.hover line)

/-- The time of a pending report has come. Says whether one was pending. -/
def flush (e : Editor) : Bool × Editor :=
  let (list, markers) := e.markers.flush
  (list.isSome, report { e with markers } list)

/-- Puts lines into a class. -/
def highlight (e : Editor) (style : Text) (payload : Text) : Except Failure Editor := do
  let lines ← readPayload .highlightLines linesDecoder payload
  return e.withMarkers (e.markers.highlight style lines)

/-- Sets the links for error panels from now on. -/
def setErrorLinks (e : Editor) (payload : Text) : Except Failure Editor := do
  let links ← readPayload .errorLinks (Json.Decoder.list ErrorLink.decoder) payload
  return e.withMarkers (e.markers.setLinks links)

/-- Shows an error after a line. -/
def showError (e : Editor) (line : Nat) (data text : Text) : Editor :=
  e.withMarkers (e.markers.showError line data text)

/-- Shows a piece of script after a line. -/
def showCode (e : Editor) (line : Nat) (data text : Text) : Editor :=
  e.withMarkers (e.markers.showCode e.context.grammar.vocabulary line data text)

/-- Removes the error panels. -/
def clearErrors (e : Editor) : Editor := e.withMarkers e.markers.clearErrors

/-- Removes all highlights and panels, as when a script has ended. -/
def clear (e : Editor) : Editor := e.withMarkers e.markers.clearHighlights.clearPanels

/-! ## The user -/

/-- Moves the cursor. -/
def setCursor (e : Editor) (line : Nat) : Editor := { e with cursor := max line 1 }

/-- Carries out a command at the cursor. -/
def execute (e : Editor) : Command → Editor
  | .startDebugging => e.fire .startDebugging
  | .startDebuggingAtStep => e.fire (.startDebuggingAtStep e.cursor)
  | .startDebuggingAtStepAndContinue => e.fire (.startDebuggingAtStepAndContinue e.cursor)
  | .startDebuggingAtEntry => e.fire .startDebuggingAtEntry
  | .stepOver => e.fire (.stepOver e.cursor)
  | .toggleBreakpoint => (e.toggle e.cursor).2

end Editor

end StepScript
