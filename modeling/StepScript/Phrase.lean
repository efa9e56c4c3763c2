import StepScript.Delimiter

/-!
# Phrases: the words of a step line and their placeholders

**Words.** A step line falls into words at blank characters. A word that begins with an opening
delimiter runs to its closing delimiter and then on to the next blank, so a literal with spaces
inside is one word; an unclosed literal runs to the end of the line (`Phrase.words`). An
apostrophe inside a word opens nothing.

**Placeholders.** A word that is one whole literal is a placeholder, and the text between its
delimiters is the placeholder's name. A word that glues two literals together is none: the name
may not hold the opening delimiter again (`Placeholder.ofWord?`).
-/

namespace StepScript

namespace Phrase

/-- Where the splitter stands: between words, in a word, or in a word's literal. -/
inductive Position where
  | between
  | inWord
  | inLiteral (close : Char)
  deriving DecidableEq, Repr

/-- The position after a word's first character. -/
def Position.opening (c : Char) : Position :=
  match Delimiter.ofOpening? c with
  | some d => .inLiteral d.closing
  | none => .inWord

/-- The words of the rest of a line. Inside a word, the first piece completes that word. -/
def wordsFrom : Position → Text → List Text
  | .between, [] => []
  | _, [] => [[]]
  | .between, c :: rest =>
    if isBlank c then wordsFrom .between rest
    else Text.consHead c (wordsFrom (.opening c) rest)
  | .inWord, c :: rest =>
    if isBlank c then [] :: wordsFrom .between rest
    else Text.consHead c (wordsFrom .inWord rest)
  | .inLiteral close, c :: rest =>
    Text.consHead c (wordsFrom (if c = close then .inWord else .inLiteral close) rest)

/-- The words of a line. -/
def words (line : Text) : List Text := wordsFrom .between line

end Phrase

/-- A word that is one literal, with the text between its delimiters. -/
structure Placeholder where
  /-- The kind of literal. -/
  delimiter : Delimiter
  /-- The text between the delimiters. -/
  name : Text
  deriving DecidableEq, Repr

namespace Placeholder

/-- The word with `name` between the delimiters of the given kind. -/
def toWord (p : Placeholder) : Text := p.delimiter.opening :: p.name ++ [p.delimiter.closing]

/-- The placeholder that a word is. -/
def ofWord? : Text → Option Placeholder
  | [] => none
  | c :: rest =>
    match Delimiter.ofOpening? c with
    | none => none
    | some d =>
      if rest.getLast? = some d.closing ∧ d.opening ∉ rest.dropLast then some ⟨d, rest.dropLast⟩
      else none

end Placeholder

end StepScript
