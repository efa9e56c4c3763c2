import StepScript.Step

/-!
# The catalog: steps by key

**Loading.** Entries are numbered as they are loaded, also those that make no step, and a step
replaces an earlier one with the same key. Keys depend on the keywords, so after a change of the
vocabulary the catalog is keyed anew (`relabelAll`); steps whose keys then meet are merged, and the
one loaded last remains.

**Questions.** A script line is looked up by its key (`stepForLine?`); completion lists the steps
that the typed words lead to (`suggest`); a check reports the lines that begin with a keyword but
name no step (`check`). Whatever lists steps lists them in the order of `Step.precedes`.
-/

namespace StepScript

/-- A script line whose step no catalog knows. -/
structure Problem where
  /-- The number of the line, from one. -/
  line : Nat
  message : Text
  deriving DecidableEq, Repr

/-- A problem as data. -/
def Problem.toValue (p : Problem) : Json.Value :=
  .record [("lineNumber", .ofNat p.line), ("message", .string p.message)]

/-- The steps that are known, by key. -/
structure Catalog where
  steps : Table Step
  /-- The number of entries loaded so far. -/
  loaded : Nat

namespace Catalog

/-- The catalog without steps. -/
def empty : Catalog := ⟨.empty, 0⟩

instance : Inhabited Catalog := ⟨empty⟩

/-! ## Loading -/

/-- Loads one entry. -/
def load (v : Vocabulary) (c : Catalog) (entry : StepEntry) : Catalog :=
  let order := c.loaded + 1
  match Step.ofEntry? entry order v with
  | some step => ⟨c.steps.insert step.key step, order⟩
  | none => ⟨c.steps, order⟩

/-- Loads entries in order, after dropping the present steps if `clear`. -/
def extend (c : Catalog) (entries : List StepEntry) (clear : Bool) (v : Vocabulary) : Catalog :=
  entries.foldl (load v) ⟨if clear then .empty else c.steps, c.loaded⟩

/-- The steps in the order in which they were loaded. -/
def inLoadOrder (c : Catalog) : List Step :=
  c.steps.values.mergeSort (fun a b => a.order ≤ b.order)

/-- Every step derived anew and stored under its new key. -/
def relabelAll (c : Catalog) (v : Vocabulary) : Catalog :=
  let relabelled := c.inLoadOrder.map (·.relabel v)
  ⟨Table.empty.insertAll (relabelled.map fun s => (s.key, s)), c.loaded⟩

/-! ## Questions -/

/-- The number of steps. -/
def size (c : Catalog) : Nat := c.steps.size

/-- The step under a key. -/
def find? (c : Catalog) (key : Text) : Option Step := c.steps.find? key

/-- Whether there is a step under a key. -/
def contains (c : Catalog) (key : Text) : Bool := c.steps.contains key

/-- All steps, sorted. -/
def sorted (c : Catalog) : List Step := c.steps.values.mergeSort Step.precedes

/-- The step that a script line names. -/
def stepForLine? (c : Catalog) (line : Text) (v : Vocabulary) : Option Step :=
  match Phrase.words line with
  | [] => none
  | words => c.find? (v.stepKey words)

/-- The steps that the text typed so far on a line leads to. Its leading keyword does not count. -/
def suggest (c : Catalog) (typed : Text) (v : Vocabulary) : List Step :=
  let words := Phrase.words typed
  let needles := (words.drop (v.keywordLength words)).map Text.lower
  c.sorted.filter (·.isFoundBy needles)

/-- The message for an unknown step. -/
def unknownStepMessage (v : Vocabulary) : Text :=
  if v.syntaxMessage = [] then "Unknown step".toList else v.syntaxMessage

/-- Whether a line begins with a keyword, goes on after it, and names no step. -/
def isUnknown (c : Catalog) (v : Vocabulary) (line : Text) : Bool :=
  let words := Phrase.words line
  match v.matchKeyword? words with
  | none => false
  | some length => length ≠ words.length && !c.contains (v.stepKey words)

/-- The lines of a document that begin with a keyword but name no step. -/
def check (c : Catalog) (document : Text) (v : Vocabulary) : List Problem :=
  ((document.lines.zipIdx 1).filter fun l => c.isUnknown v l.1).map fun l =>
    ⟨l.2, unknownStepMessage v⟩

end Catalog

end StepScript
