import StepScript.Text.Basic

/-!
# Failures: why a payload is refused

A payload is the text of some data that a host or a file sends. It is read as a whole before
anything changes, and either takes effect or is refused as malformed. A file may also fail to be
read at all.
-/

namespace StepScript

/-- What a payload is about. -/
inductive Subject where
  | keywords
  | elementTable
  | variableTable
  | stepList
  | errorLinks
  | breakpoints
  | highlightLines
  | config
  deriving DecidableEq, Repr

/-- The name of a subject in messages. -/
def Subject.label : Subject → String
  | keywords => "keywords"
  | elementTable => "elements"
  | variableTable => "variables"
  | stepList => "step list"
  | errorLinks => "error links"
  | breakpoints => "breakpoints"
  | highlightLines => "highlight lines"
  | config => "config"

/-- Why a payload or a configuration could not be applied. -/
inductive Failure where
  /-- The payload does not have the form that its subject asks for. -/
  | malformed (subject : Subject)
  /-- The file could not be read, for the given reason. -/
  | unreadable (path reason : Text)
  deriving DecidableEq, Repr

/-- The text of a failure. -/
def Failure.message : Failure → Text
  | malformed subject => ("malformed " ++ subject.label ++ " payload").toList
  | unreadable path reason => "cannot read ".toList ++ path ++ ": ".toList ++ reason

/-- A result that is made of a part which may be refused. -/
theorem Failure.bind_eq_ok {α β : Type} {x : Except Failure α} {f : α → Except Failure β} {b : β}
    (h : x >>= f = .ok b) : ∃ a, x = .ok a ∧ f a = .ok b := by
  cases x with
  | error refusal => exact nomatch h
  | ok a => exact ⟨a, rfl, h⟩

end StepScript
