import StepScript.Text.Basic

/-!
# Delimiters of literals

A literal stands between double quotes, between single quotes, or between angle brackets. Script
lines and step phrases share the three kinds: the tokenizer colours what stands between the
delimiters, and a phrase word that is one literal is a placeholder.
-/

namespace StepScript

/-- The kinds of literals, by their delimiters. -/
inductive Delimiter where
  | double
  | single
  | angle
  deriving DecidableEq, Repr

namespace Delimiter

/-- The character that opens a literal. -/
def opening : Delimiter → Char
  | double => '"'
  | single => '\''
  | angle => '<'

/-- The character that closes a literal. -/
def closing : Delimiter → Char
  | double => '"'
  | single => '\''
  | angle => '>'

/-- The kind of literal that a character opens. -/
def ofOpening? : Char → Option Delimiter
  | '"' => some double
  | '\'' => some single
  | '<' => some angle
  | _ => none

/-- A delimiter is known by the character that opens it. -/
@[simp] theorem ofOpening?_opening (d : Delimiter) : ofOpening? d.opening = some d := by
  cases d <;> rfl

/-- A character that opens a literal is the one of its delimiter. -/
theorem opening_of_ofOpening? {c : Char} {d : Delimiter} (h : ofOpening? c = some d) :
    c = d.opening := by
  unfold ofOpening? at h
  split at h <;> simp_all <;> subst h <;> rfl

/-- There are three characters that open a literal. -/
theorem ofOpening?_eq_none_iff {c : Char} : ofOpening? c = none ↔ c ∉ ['"', '\'', '<'] := by
  unfold ofOpening?
  split <;> simp_all

end Delimiter

end StepScript
