import StepScript.Context
import StepScript.LanguageServer.Place

/-!
# Completion: steps for what has been typed

The text before the cursor leads to steps (`Catalog.suggest`). An item puts the text of a step in
the place of what was typed for it: the typed text after the leading keyword, and without the blank
characters before it (`replaceStart`).
-/

namespace StepScript.LanguageServer

/-- The number of characters of a line that completion leaves alone: its leading keyword, if the
cursor is not inside it, and the blank characters before what was typed. -/
def replaceStart (v : Vocabulary) (line before : Text) : Nat :=
  let keyword := match v.leadingKeyword? line with
    | some (length, _) => if length ≤ before.length then length else 0
    | none => 0
  keyword + (Scan.blanks (before.drop keyword)).length

/-- A step offered for a part of a line. -/
structure CompletionItem where
  step : Step
  /-- What it would replace. -/
  replaced : Span

/-- The number of the kind of an item. Numbers that the protocol does not know stand for functions,
which is number three. -/
def completionKind (kind : Nat) : Nat := if 1 ≤ kind ∧ kind ≤ 25 then kind else 3

/-- A member that is left out if its text is empty. -/
def unlessEmpty (name : String) (t : Text) (value : Text → Json.Value) :
    List (String × Json.Value) :=
  if t = [] then [] else [(name, value t)]

/-- An item as data. -/
def CompletionItem.toValue (i : CompletionItem) : Json.Value :=
  .record ([("label", .string i.step.label), ("kind", .ofNat (completionKind i.step.kind))] ++
    unlessEmpty "detail" i.step.group .string ++
    unlessEmpty "documentation" i.step.documentation markdownValue ++
    [("filterText", .string i.step.filterText)] ++
    unlessEmpty "sortText" i.step.sortText .string ++
    [("textEdit", .record [("range", i.replaced.toValue), ("newText", .string i.step.insertText)])])

/-- The items for a place in a document. A line that the document does not have is empty. -/
def complete (c : Context) (document : Text) (place : Place) : List CompletionItem :=
  let line := (document.lines[place.line]?).getD []
  let before := Text.beforeUnit place.character line
  let kept := line.take (replaceStart c.grammar.vocabulary line before)
  (c.suggest before).map fun step => ⟨step, .inLine place.line kept before⟩

end StepScript.LanguageServer
