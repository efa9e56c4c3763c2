/-!
# Anchors: places that follow the lines of a document

**What an anchor is.** An anchor names a range of the document. When whole lines are inserted or
deleted, every range moves with its text (`LineRange.insertLines`, `LineRange.deleteLines`), so that
whoever holds an anchor finds its place again. Lines and columns count from one.

**Ownership.** Anchors are handed out with ever new numbers, so a number once removed never comes
back. Whoever creates an anchor removes it; an anchor may also be discarded behind its owner's back,
and then resolves to nothing.
-/

namespace StepScript

/-- A range of a document, by lines and columns from one. -/
structure LineRange where
  startLine : Nat
  startColumn : Nat
  endLine : Nat
  endColumn : Nat
  deriving DecidableEq, Repr

namespace LineRange

/-- The empty range at the start of a line. -/
def ofLine (line : Nat) : LineRange := ⟨line, 1, line, 1⟩

/-- The range after `count` lines were inserted before line `at`. A range that starts before that
line and ends at it or after it grows. -/
def insertLines (at_ count : Nat) (r : LineRange) : LineRange :=
  if at_ ≤ r.startLine then
    { r with startLine := r.startLine + count, endLine := r.endLine + count }
  else if at_ ≤ r.endLine then { r with endLine := r.endLine + count }
  else r

/-- Where a line is after `count` lines from `start` were deleted. A deleted line falls on the line
that takes its place. -/
def lineAfterDelete (start count line : Nat) : Nat :=
  if start + count ≤ line then line - count
  else if start ≤ line then start
  else line

/-- The range after `count` lines from `start` were deleted. A range that did not start before the
deleted lines and now lies on one line, the one in their place, becomes empty. -/
def deleteLines (start count : Nat) (r : LineRange) : LineRange :=
  if count = 0 then r
  else
    let startLine := lineAfterDelete start count r.startLine
    let endLine := lineAfterDelete start count r.endLine
    if start ≤ r.startLine ∧ startLine = start ∧ endLine = start then ofLine start
    else { r with startLine, endLine }

end LineRange

/-- The number of an anchor. -/
abbrev AnchorId := Nat

/-- The anchors of a document with their ranges. -/
structure Anchors where
  /-- The number handed out last. -/
  last : AnchorId
  /-- The ranges of the anchors that have not been removed. -/
  ranges : List (AnchorId × LineRange)
  deriving DecidableEq, Repr

namespace Anchors

/-- No anchors. -/
def empty : Anchors := ⟨0, []⟩

instance : Inhabited Anchors := ⟨empty⟩

/-- The number of anchors. -/
def size (a : Anchors) : Nat := a.ranges.length

/-- Hands out a new anchor for a range. -/
def create (a : Anchors) (range : LineRange) : AnchorId × Anchors :=
  (a.last + 1, ⟨a.last + 1, a.ranges ++ [(a.last + 1, range)]⟩)

/-- The range of an anchor; none once the anchor has been removed. -/
def resolve? (a : Anchors) (id : AnchorId) : Option LineRange :=
  (a.ranges.find? (·.1 = id)).map Prod.snd

/-- The line at which the range of an anchor starts. -/
def line? (a : Anchors) (id : AnchorId) : Option Nat := (a.resolve? id).map LineRange.startLine

/-- Removes an anchor. -/
def remove (a : Anchors) (id : AnchorId) : Anchors :=
  { a with ranges := a.ranges.filter (·.1 ≠ id) }

/-- Removes several anchors. -/
def removeAll (a : Anchors) (ids : List AnchorId) : Anchors := ids.foldl remove a

/-- Moves every range. -/
def mapRanges (f : LineRange → LineRange) (a : Anchors) : Anchors :=
  { a with ranges := a.ranges.map fun e => (e.1, f e.2) }

/-- The anchors after `count` lines were inserted before line `at_`. -/
def insertLines (a : Anchors) (at_ count : Nat) : Anchors :=
  a.mapRanges (LineRange.insertLines at_ count)

/-- The anchors after `count` lines from `start` were deleted. -/
def deleteLines (a : Anchors) (start count : Nat) : Anchors :=
  a.mapRanges (LineRange.deleteLines start count)

end Anchors

end StepScript
