import StepScript.LanguageServer.Place
import StepScript.Token

/-!
# Semantic tokens: the colours of a document in numbers

**Marks.** Every token that is neither white space nor plain text is a mark: where it is, how long
it is, and the number of its type in the legend, with a bit that says whether it is invalid.

**Differences.** Marks are sent relative to each other. A mark on the line of the one before it is
counted from the start of that one, and a mark on a later line from the start of its line
(`differences`).
-/

namespace StepScript.LanguageServer

/-- The types of tokens, by number. -/
def tokenTypes : List String :=
  ["namespace", "keyword", "variable", "decorator", "operator", "comment", "number", "string",
    "regexp", "emphasis", "strong"]

/-- The modifiers of tokens, by bit. -/
def tokenModifiers : List String := ["invalid"]

/-- The type and the modifiers of a kind of token; none when it is not coloured. -/
def colour? : TokenKind → Option (Nat × Nat)
  | .heading => some (0, 0)
  | .keyword => some (1, 0)
  | .identifier => some (2, 0)
  | .tag => some (3, 0)
  | .operator => some (4, 0)
  | .comment => some (5, 0)
  | .number => some (6, 0)
  | .string => some (7, 0)
  | .stringInvalid => some (7, 1)
  | .stringEscape => some (8, 0)
  | .stringEscapeInvalid => some (8, 1)
  | .emphasis => some (9, 0)
  | .strong => some (10, 0)
  | .white | .text => none

/-- A coloured token in its place. -/
structure Mark where
  line : Nat
  /-- The place in the line at which it starts. -/
  start : Nat
  length : Nat
  type : Nat
  modifiers : Nat
  deriving DecidableEq, Repr

/-- The marks among the tokens of the rest of a line that goes on at `start`. -/
def marksInLine (line start : Nat) : List Token → List Mark
  | [] => []
  | token :: rest =>
    let length := token.text.unitLength
    let after := marksInLine line (start + length) rest
    match colour? token.kind with
    | some (type, modifiers) => ⟨line, start, length, type, modifiers⟩ :: after
    | none => after

/-- The marks of lines, the first of which has the number `line`. -/
def marksFrom (line : Nat) : List LineTokens → List Mark
  | [] => []
  | first :: rest => marksInLine line 0 first.tokens ++ marksFrom (line + 1) rest

/-- The marks of a document. -/
def marks (lines : List LineTokens) : List Mark := marksFrom 0 lines

/-- A mark relative to the one before it. -/
structure Difference where
  /-- The number of lines between them. -/
  lines : Nat
  /-- The start, counted from that of the mark before it if both are on one line. -/
  start : Nat
  length : Nat
  type : Nat
  modifiers : Nat
  deriving DecidableEq, Repr

/-- A mark relative to one that starts at the given place. -/
def Mark.since (m : Mark) (line start : Nat) : Difference :=
  ⟨m.line - line, if m.line = line then m.start - start else m.start, m.length, m.type, m.modifiers⟩

/-- Marks relative to each other, the first one to a given place. -/
def differencesFrom (line start : Nat) : List Mark → List Difference
  | [] => []
  | m :: rest => m.since line start :: differencesFrom m.line m.start rest

/-- Marks relative to each other. -/
def differences (list : List Mark) : List Difference := differencesFrom 0 0 list

/-- The numbers of a difference, in the order in which they are sent. -/
def Difference.numbers (d : Difference) : List Nat :=
  [d.lines, d.start, d.length, d.type, d.modifiers]

/-- The numbers that colour a document. -/
def semanticTokens (lines : List LineTokens) : List Nat :=
  (differences (marks lines)).flatMap Difference.numbers

end StepScript.LanguageServer
