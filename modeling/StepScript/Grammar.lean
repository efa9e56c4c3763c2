import StepScript.Scan.Leading
import StepScript.Scan.Literal
import StepScript.Scan.Number
import StepScript.Token
import StepScript.Vocabulary

/-!
# Grammar: the tokens of a script

**Matches.** In each mode a rule looks at the rest of the line and takes a number of characters for
a token (`Match`). A match always takes at least one character, so reading a line ends.

**The rules.** At the start of a line the root mode tries a heading, a keyword phrase and a word.
Then, as in the row modes, come annotations, table rows, white space, comments, numbers and
literals (`sharedMatch?`); what is left over is emphasis. After a keyword every further word is an
identifier. Inside a literal there are only its closing delimiter, escapes and plain characters.

**A document.** Lines are read in order, and each hands its state to the next; only a literal that
a trailing backslash keeps open reaches over a line end.
-/

namespace StepScript

/-- What a rule takes from the rest of a line, and as what. -/
structure Match where
  /-- The number of characters. -/
  length : Nat
  kind : TokenKind
  effect : Effect
  /-- A rule makes progress. -/
  positive : 0 < length

namespace Match

/-- A match of `length` characters, unless that is none. -/
def ofLength? (length : Nat) (kind : TokenKind) (effect : Effect := .stay) : Option Match :=
  if h : 0 < length then some ⟨length, kind, effect, h⟩ else none

/-- A match of one character. -/
def one (kind : TokenKind) (effect : Effect := .stay) : Match := ⟨1, kind, effect, Nat.one_pos⟩

/-- A match of one character and all that follow it. -/
def through (rest : Text) (kind : TokenKind) : Match :=
  ⟨rest.length + 1, kind, .stay, Nat.succ_pos _⟩

end Match

namespace Scan

/-! ## Rules that need no vocabulary

Each rule is given the next character `c` and the rest of the line after it. -/

/-- Whether `c` is white space within a line. The other blank characters are text. -/
def isSpace (c : Char) : Bool := c = ' ' || c = '\t' || c = '\r' || c = '\n'

/-- The match at a character that opens a literal. -/
def openingMatch (d : Delimiter) (rest : Text) : Match :=
  if runsOut d.closing rest then .through rest .stringInvalid
  else .one .string (.enter (.literal d))

/-- The rules that hold at the start of a line only: a strong line, a table row, a comment. -/
def lineMatch? (c : Char) (rest : Text) : Option Match :=
  match afterBlanks (c :: rest) with
  | '*' :: _ => some (.through rest .strong)
  | '|' :: _ => Match.ofLength? ((blanks (c :: rest)).length + 1) .operator (.enter (.row .params))
  | _ => if c = '#' ∨ (c = '/' ∧ rest.head? = some '/') then some (.through rest .comment) else none

/-- The rules shared by the root mode and the rows. -/
def sharedMatch? (atStart : Bool) (c : Char) (rest : Text) : Option Match :=
  if c = '@' then some (.through rest .tag)
  else
    (if atStart then lineMatch? c rest else none).or
      ((Match.ofLength? ((c :: rest).takeWhile isSpace).length .white).or
        ((Match.ofLength? (numberLength (c :: rest)) .number).or
          ((Delimiter.ofOpening? c).map (openingMatch · rest))))

/-- The match in a row of parameters. -/
def paramsMatch (atStart : Bool) (c : Char) (rest : Text) : Match :=
  (sharedMatch? atStart c rest).getD (.one .text)

/-- The match after a keyword. -/
def operatorMatch (atStart : Bool) (c : Char) (rest : Text) : Match :=
  (Match.ofLength? (leadingWordLength (c :: rest)) .identifier).getD
    (paramsMatch atStart c rest)

/-- The match inside a literal. -/
def literalMatch (d : Delimiter) (c : Char) (rest : Text) : Match :=
  if c = d.closing then .one .string .leave
  else if c = '\\' then
    if escapeBodyLength rest = 0 then
      ⟨1 + (rest.take 1).length, .stringEscapeInvalid, .stay, by omega⟩
    else ⟨1 + escapeBodyLength rest, .stringEscape, .stay, by omega⟩
  else ⟨1 + plainLength d.closing rest, .string, .stay, by omega⟩

end Scan

namespace Vocabulary

open Scan

/-! ## Rules that read the vocabulary -/

/-- The keyword phrase at the start of a line: the length of the line up to its end, and its number
of words. -/
def leadingKeyword? (v : Vocabulary) (line : Text) : Option (Nat × Nat) :=
  let found := leadingWords v.longestPhrase line
  match v.matchKeyword? (found.map Prod.fst) with
  | none => none
  | some count => (found[count - 1]?).map fun w => (w.2, count)

/-- The match at the start of a line in root mode: a heading, a keyword phrase, or a word. -/
def startMatch? (v : Vocabulary) (line : Text) : Option Match :=
  match heading? line with
  | some (word, length) =>
    Match.ofLength? length (if v.isSingleKeyword word then .heading else .identifier)
  | none =>
    match v.leadingKeyword? line with
    | some (length, _) => Match.ofLength? length .keyword (.enter (.row .operator))
    | none => Match.ofLength? (leadingWordLength line) .emphasis

/-- The match in root mode. -/
def rootMatch (v : Vocabulary) (atStart : Bool) (c : Char) (rest : Text) : Match :=
  ((if atStart then v.startMatch? (c :: rest) else none).or
    (sharedMatch? atStart c rest)).getD (.through rest .emphasis)

/-- The match at a character and the rest of its line. -/
def matchAt (v : Vocabulary) (mode : Mode) (atStart : Bool) (c : Char) (rest : Text) : Match :=
  match mode with
  | .root => v.rootMatch atStart c rest
  | .row .operator => operatorMatch atStart c rest
  | .row .params => paramsMatch atStart c rest
  | .literal d => literalMatch d c rest

/-! ## Lines and documents -/

/-- The tokens of the rest of a line, before runs of text are joined, and the state after them. -/
def scan (v : Vocabulary) (state : LineState) (atStart : Bool) : Text → List Token × LineState
  | [] => ([], state)
  | c :: rest =>
    let found := v.matchAt state.mode atStart c rest
    let next := state.apply found.effect
    let token : Token := ⟨(c :: rest).take found.length, found.kind, next.mode⟩
    let after := v.scan next false ((c :: rest).drop found.length)
    (token :: after.1, after.2)
termination_by t => t.length
decreasing_by
  have := (v.matchAt state.mode atStart c rest).positive
  simp only [List.length_drop, List.length_cons]
  omega

/-- The tokens of a line that follows a line with the given state. -/
def tokenizeLine (v : Vocabulary) (line : Text) (state : LineState) : LineTokens :=
  let scanned := v.scan state.nextLine true line
  ⟨Token.joinText scanned.1, scanned.2⟩

/-- The tokens of lines in order, each starting in the state in which the one before ended. -/
def tokenizeLines (v : Vocabulary) (state : LineState) : List Text → List LineTokens
  | [] => []
  | line :: lines =>
    let first := v.tokenizeLine line state
    first :: v.tokenizeLines first.state lines

/-- The tokens of a document, line by line. -/
def tokenize (v : Vocabulary) (document : Text) : List LineTokens :=
  v.tokenizeLines .initial document.lines

end Vocabulary

/-- A reader of scripts. It is built on a vocabulary and keeps that one, whatever becomes of the
tables from which it came. -/
structure Grammar where
  /-- The words that the rules look for. -/
  vocabulary : Vocabulary

namespace Grammar

/-- The tokens of a document. -/
def tokenize (g : Grammar) (document : Text) : List LineTokens := g.vocabulary.tokenize document

end Grammar

end StepScript
