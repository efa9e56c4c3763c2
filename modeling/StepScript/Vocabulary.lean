import StepScript.Phrase
import StepScript.Table
import StepScript.Text.Lower

/-!
# Vocabularies: keyword phrases, elements and variables

A vocabulary is what the words of a script are read against.

* **Keyword phrases** are sequences of lower-case words, longest first, so that the first phrase
  that fits a line is the longest one. Phrases of equal length keep the order in which they were
  given; blank phrases and repetitions are dropped.
* **Elements and variables** give placeholders their values. Names are compared in lower case; an
  element comes before a variable of the same name.
* **The syntax message** is the text reported for a step that no catalog knows.

A vocabulary is a value: changing it gives a new one, and readers of the old one are not disturbed.
-/

namespace StepScript

/-- A variable, with its name as it was given. -/
structure Variable where
  name : Text
  value : Text
  deriving DecidableEq, Repr

/-- The words with a meaning of their own, and the values of placeholders. -/
structure Vocabulary where
  /-- The keyword phrases as sequences of lower-case words, longest first. -/
  keywords : List (List Text)
  /-- The elements by lower-case name. -/
  elementTable : Table Text
  /-- The variables by lower-case name. -/
  variableTable : Table Variable
  /-- The message for an unknown step; empty when none was set. -/
  syntaxMessage : Text

namespace Vocabulary

/-- The vocabulary without words. -/
def empty : Vocabulary := ⟨[], .empty, .empty, []⟩

instance : Inhabited Vocabulary := ⟨empty⟩

/-! ## Building -/

/-- Adds the words of a phrase to the phrases before it, unless it is blank or repeats one. -/
def addPhrase (phrases : List (List Text)) (phrase : Text) : List (List Text) :=
  let words := Text.words phrase.lower
  if words = [] ∨ words ∈ phrases then phrases else phrases ++ [words]

/-- The keyword table of a list of phrases: lower case, without blanks and repetitions, and sorted
by descending number of words without disturbing phrases of equal length. -/
def keywordTable (phrases : List Text) : List (List Text) :=
  (phrases.foldl addPhrase []).mergeSort (fun a b => b.length ≤ a.length)

/-- The vocabulary with its keyword phrases replaced. -/
def withKeywords (v : Vocabulary) (phrases : List Text) : Vocabulary :=
  { v with keywords := keywordTable phrases }

/-- The vocabulary with elements written in order, after dropping the present ones if `clear`. -/
def withElements (v : Vocabulary) (pairs : List (Text × Text)) (clear : Bool) : Vocabulary :=
  let base := if clear then .empty else v.elementTable
  { v with elementTable := base.insertAll (pairs.map fun p => (p.1.lower, p.2)) }

/-- The vocabulary with variables written in order, after dropping the present ones if `clear`. -/
def withVariables (v : Vocabulary) (pairs : List (Text × Text)) (clear : Bool) : Vocabulary :=
  let base := if clear then .empty else v.variableTable
  { v with variableTable := base.insertAll (pairs.map fun p => (p.1.lower, ⟨p.1, p.2⟩)) }

/-- The vocabulary with another syntax message. -/
def withSyntaxMessage (v : Vocabulary) (message : Text) : Vocabulary :=
  { v with syntaxMessage := message }

/-! ## Reading -/

/-- The element of a name, in any case. -/
def findElement? (v : Vocabulary) (name : Text) : Option Text := v.elementTable.find? name.lower

/-- The variable of a name, in any case. -/
def findVariable? (v : Vocabulary) (name : Text) : Option Variable := v.variableTable.find? name.lower

/-- The value of a placeholder name: that of the element, else that of the variable. -/
def substitution? (v : Vocabulary) (name : Text) : Option Text :=
  (v.findElement? name).or ((v.findVariable? name).map Variable.value)

/-- The number of leading words that form the longest keyword phrase, in any case. -/
def matchKeyword? (v : Vocabulary) (words : List Text) : Option Nat :=
  (v.keywords.find? (·.isPrefixOf (words.map Text.lower))).map List.length

/-- The number of leading words that form a keyword phrase; zero when none does. -/
def keywordLength (v : Vocabulary) (words : List Text) : Nat := (v.matchKeyword? words).getD 0

/-- Whether a word is by itself a keyword, in any case. -/
def isSingleKeyword (v : Vocabulary) (word : Text) : Bool := v.keywords.contains [word.lower]

/-- The number of words of the longest keyword phrase. -/
def longestPhrase (v : Vocabulary) : Nat := (v.keywords.head?.map List.length).getD 0

/-! ## Keys and values of phrases -/

/-- The key of a step: its words without the leading keyword phrase and without placeholders, in
lower case and joined by single spaces. -/
def stepKey (v : Vocabulary) (words : List Text) : Text :=
  Text.unwords
    (((words.drop (v.keywordLength words)).filter fun w => (Placeholder.ofWord? w).isNone).map
      Text.lower)

/-- The word with the value of its placeholder between the same delimiters; other words, and
placeholders without a value, stay as they are. -/
def substitute (v : Vocabulary) (word : Text) : Text :=
  match Placeholder.ofWord? word with
  | none => word
  | some p =>
    match v.substitution? p.name with
    | none => word
    | some value => Placeholder.toWord ⟨p.delimiter, value⟩

end Vocabulary

end StepScript
