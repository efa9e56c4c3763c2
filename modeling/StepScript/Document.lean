import StepScript.Text.Basic

/-!
# Documents: lines and how they are joined

**Text and lines.** A document is a list of lines, together with the line ending that its text last
had and whether the last line was ended too. Its text is the lines joined by that ending
(`Document.text`), so mixed endings come back uniform.

**Edits.** An edit replaces whole lines, counted from one. Where it reaches beyond the document it
is first brought inside (`Edit.within`); `Document.apply` takes an edit that lies inside.
-/

namespace StepScript

/-- What ends the lines of a document. -/
inductive LineEnding where
  | lineFeed
  /-- A carriage return and a line feed. -/
  | returnLineFeed
  deriving DecidableEq, Repr

/-- The characters of a line ending. -/
def LineEnding.text : LineEnding → Text
  | lineFeed => ['\n']
  | returnLineFeed => ['\r', '\n']

/-- The ending that a text has: a carriage return and a line feed if these occur in it. -/
def LineEnding.ofText (t : Text) : LineEnding :=
  if Text.occursIn returnLineFeed.text t then returnLineFeed else lineFeed

/-- The replacement of `deleted` lines from line `start` by others. -/
structure Edit where
  start : Nat
  deleted : Nat
  inserted : List Text
  deriving DecidableEq, Repr

/-- The edit inside a document of `count` lines: it starts at the latest behind the last line, and
deletes no more lines than there are. -/
def Edit.within (e : Edit) (count : Nat) : Edit :=
  let start := max 1 (min e.start (count + 1))
  { e with start, deleted := min e.deleted (count + 1 - start) }

/-- The lines of a script. -/
structure Document where
  lines : List Text
  ending : LineEnding
  /-- Whether the last line is ended too. -/
  lastEnded : Bool
  deriving DecidableEq, Repr

namespace Document

/-- The document without lines. -/
def empty : Document := ⟨[], .lineFeed, false⟩

instance : Inhabited Document := ⟨empty⟩

/-- The number of lines. -/
def lineCount (d : Document) : Nat := d.lines.length

/-- The text of a document. -/
def text (d : Document) : Text :=
  d.ending.text.intercalate d.lines ++
    if d.lastEnded ∧ d.lines ≠ [] then d.ending.text else []

/-- The document after an edit that lies inside it. -/
def apply (d : Document) (e : Edit) : Document :=
  { d with
    lines := d.lines.take (e.start - 1) ++ e.inserted ++ d.lines.drop (e.start - 1 + e.deleted) }

/-- The document with the line endings of a text, and with its own lines. -/
def withEndingsOf (d : Document) (t : Text) : Document :=
  { d with ending := .ofText t, lastEnded := t.getLast? = some '\n' }

/-- The edit that replaces all lines by those of a text. -/
def replaceAll (d : Document) (t : Text) : Edit := ⟨1, d.lineCount, t.lines⟩

end Document

end StepScript
