import StepScript.Delimiter
import StepScript.Text.Measure

/-!
# Tokens: coloured pieces of a line

**Pieces, not offsets.** A token carries the text that it covers, and the tokens of a line are
listed in order. Where a token starts and ends is read off the tokens before it (`spans`), so
tokens cannot overlap or leave a gap, and a line is the tokens' texts in a row.

**Modes.** Which rules read a line depends on the mode. A line starts in the root mode; a keyword
puts the rest of the line in operator mode and a bar puts it in parameter mode (a `Row`); inside a
literal the delimiter decides (`Delimiter`). A mode that is entered lies on top of the one it was
entered from, which is in effect again once it is left, so the state is a stack of modes
(`LineState`).
-/

namespace StepScript

/-! ## Kinds of tokens -/

/-- What a piece of a line is. -/
inductive TokenKind where
  /-- A heading whose word is a keyword by itself. -/
  | heading
  | keyword
  | identifier
  | emphasis
  | strong
  /-- A line, or the rest of one, that an at sign opens. -/
  | tag
  | operator
  | white
  | comment
  | number
  | string
  | stringEscape
  | stringEscapeInvalid
  /-- A literal that is not closed on its line. -/
  | stringInvalid
  /-- Characters after a keyword or in a table row that no other rule takes. -/
  | text
  deriving DecidableEq, Repr

namespace TokenKind

/-- The style name of a kind, as themes and reports use it. -/
def style : TokenKind → String
  | heading => "metatag"
  | keyword => "keyword"
  | identifier => "identifier"
  | emphasis => "emphasis"
  | strong => "strong"
  | tag => "annotation"
  | operator => "operator"
  | white => "white"
  | comment => "comment"
  | number => "number"
  | string => "string"
  | stringEscape => "string.escape"
  | stringEscapeInvalid => "string.escape.invalid"
  | stringInvalid => "string.invalid"
  | text => "text"

/-- The name of a kind in data, in lower case with hyphens. -/
def label : TokenKind → String
  | heading => "section"
  | keyword => "keyword"
  | identifier => "identifier"
  | emphasis => "emphasis"
  | strong => "strong"
  | tag => "annotation"
  | operator => "operator"
  | white => "white"
  | comment => "comment"
  | number => "number"
  | string => "string"
  | stringEscape => "string-escape"
  | stringEscapeInvalid => "string-escape-invalid"
  | stringInvalid => "string-invalid"
  | text => "text"

/-- Whether a kind belongs to a literal. -/
def isString : TokenKind → Bool
  | string | stringEscape | stringEscapeInvalid | stringInvalid => true
  | _ => false

end TokenKind

/-! ## Modes and states -/

/-- What the rest of a line is, once its first token has said so. -/
inductive Row where
  /-- After a keyword. -/
  | operator
  /-- After the bar of a table row. -/
  | params
  deriving DecidableEq, Repr

/-- The rules that read the next piece of a line. -/
inductive Mode where
  | root
  | row (row : Row)
  | literal (delimiter : Delimiter)
  deriving DecidableEq, Repr

namespace Mode

/-- The name of a mode. -/
def label : Mode → String
  | root => "root"
  | row .operator => "operator"
  | row .params => "params"
  | literal .double => "doublequoted"
  | literal .single => "singlequoted"
  | literal .angle => "angled"

/-- Whether a mode ends with its line. -/
def endsWithLine : Mode → Bool
  | row _ => true
  | _ => false

end Mode

/-- The state of the tokenizer between two pieces. -/
structure LineState where
  /-- The modes that are open, innermost first. -/
  modes : List Mode
  deriving DecidableEq, Repr

/-- How a rule changes the state. -/
inductive Effect where
  | stay
  | enter (mode : Mode)
  | leave
  deriving DecidableEq, Repr

namespace LineState

/-- The state before the first line. -/
def initial : LineState := ⟨[.root]⟩

instance : Inhabited LineState := ⟨initial⟩

/-- The mode in effect. -/
def mode (s : LineState) : Mode := s.modes.head?.getD .root

/-- The modes that are open, outermost first. -/
def stack (s : LineState) : List Mode := s.modes.reverse

/-- The state inside a mode. -/
def enter (s : LineState) (m : Mode) : LineState := ⟨m :: s.modes⟩

/-- The state outside the mode in effect. The outermost mode is never left. -/
def leave (s : LineState) : LineState :=
  match s.modes with
  | _ :: outer :: rest => ⟨outer :: rest⟩
  | _ => s

/-- The modes that survive a line break, innermost first: those that end with their line are left,
up to one that does not. -/
def surviving : List Mode → List Mode
  | m :: outer :: rest => if m.endsWithLine then surviving (outer :: rest) else m :: outer :: rest
  | modes => modes

/-- The state in which the next line starts. -/
def nextLine (s : LineState) : LineState := ⟨surviving s.modes⟩

/-- The state after a rule. -/
def apply (s : LineState) : Effect → LineState
  | .stay => s
  | .enter m => s.enter m
  | .leave => s.leave

end LineState

/-! ## Tokens -/

/-- A classified piece of a line. -/
structure Token where
  /-- The characters it covers. -/
  text : Text
  kind : TokenKind
  /-- The mode in effect after it. -/
  mode : Mode
  deriving DecidableEq, Repr

namespace Token

/-- Puts a token in front of others. Two neighbours of kind `text` become one token, which keeps
the first one's mode. -/
def attach (token : Token) : List Token → List Token
  | [] => [token]
  | next :: rest =>
    if token.kind = .text ∧ next.kind = .text then
      { token with text := token.text ++ next.text } :: rest
    else token :: next :: rest

/-- The tokens with runs of kind `text` joined. -/
def joinText (tokens : List Token) : List Token := tokens.foldr attach []

/-- The tokens with the byte offsets at which they start and end, the first one at `start`. -/
def spansFrom (start : Nat) : List Token → List (Nat × Nat × Token)
  | [] => []
  | token :: rest =>
    (start, start + token.text.byteLength, token) ::
      spansFrom (start + token.text.byteLength) rest

/-- The tokens of a line with their byte offsets. -/
def spans (tokens : List Token) : List (Nat × Nat × Token) := spansFrom 0 tokens

end Token

/-- The tokens of a line and the state after it. -/
structure LineTokens where
  tokens : List Token
  state : LineState
  deriving DecidableEq, Repr

namespace LineTokens

/-- The first token that is not white space. -/
def firstSignificant? (line : LineTokens) : Option Token :=
  line.tokens.find? (·.kind ≠ .white)

/-- The number of bytes that belong to literals. -/
def stringLength (line : LineTokens) : Nat :=
  Text.byteLength ((line.tokens.filter (·.kind.isString)).flatMap Token.text)

end LineTokens

end StepScript
