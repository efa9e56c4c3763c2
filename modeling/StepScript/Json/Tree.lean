import StepScript.Json.Number

/-!
# Trees: data as it is written

**Two levels.** Data arrives as text. `Tree.parse?` reads the text into a tree, which keeps what is
written: the members of an object in order, a name that occurs twice, a string that holds half of a
surrogate pair, a number too large to have a value. Such a string or number is well formed but has
no value, and is kept as `none`. What a tree means is decided where it is used: a record skips the
members that it does not know, whatever they hold, and everything else must have a value.

**Reading is two folds.** `Lexeme.step` reads a character and may complete a lexeme; `Progress.step`
reads a lexeme and may complete a tree. Neither looks ahead, so both run over their input by plain
recursion.
-/

namespace StepScript.Json

/-- Data as it is written. -/
inductive Tree where
  | null
  | bool (value : Bool)
  /-- A number; none when it is too large to have a value. -/
  | number (value : Option Number)
  /-- A string; none when it holds half of a surrogate pair. -/
  | string (value : Option Text)
  | array (items : List Tree)
  | object (members : List (Option Text × Tree))
  deriving Inhabited, Repr

/-! ## Lexemes -/

/-- A lexical unit of data. -/
inductive Lexeme where
  | openArray
  | closeArray
  | openObject
  | closeObject
  | comma
  | colon
  | string (value : Option Text)
  /-- A number or a word. -/
  | atom (tree : Tree)
  deriving Repr

namespace Lexeme

/-- What a string is written with: characters, and sixteen-bit units given by their codes. -/
inductive Piece where
  | char (c : Char)
  | unit (code : Nat)
  deriving DecidableEq, Repr

/-- Whether a unit is the first half of a surrogate pair. -/
def isHighHalf (code : Nat) : Bool := 0xD800 ≤ code && code < 0xDC00

/-- Whether a unit is the second half of a surrogate pair. -/
def isLowHalf (code : Nat) : Bool := 0xDC00 ≤ code && code < 0xE000

/-- The text that the pieces of a string make; none when a half of a surrogate pair stands alone. -/
def joinPieces : List Piece → Option Text
  | [] => some []
  | .char c :: rest => (joinPieces rest).map (c :: ·)
  | .unit high :: .unit low :: rest =>
    if isHighHalf high then
      if isLowHalf low then
        (joinPieces rest).map
          (Char.ofNat (0x10000 + (high - 0xD800) * 0x400 + (low - 0xDC00)) :: ·)
      else none
    else if isLowHalf high then none
    else (joinPieces (.unit low :: rest)).map (Char.ofNat high :: ·)
  | .unit code :: rest =>
    if isHighHalf code || isLowHalf code then none
    else (joinPieces rest).map (Char.ofNat code :: ·)

/-- What has been read of a lexeme that may go on, last character first. -/
inductive Partial where
  | nothing
  /-- Letters, digits and signs of a number or a word. -/
  | bare (read : Text)
  | string (read : List Piece)
  /-- In a string, after a backslash. -/
  | escape (read : List Piece)
  /-- In a string, in a code of which `left` digits are still to come. -/
  | code (read : List Piece) (value left : Nat)
  deriving Repr

/-- The number or word that a run of letters, digits and signs is. -/
def atom? (run : Text) : Option Lexeme :=
  if run = "null".toList then some (.atom .null)
  else if run = "true".toList then some (.atom (.bool true))
  else if run = "false".toList then some (.atom (.bool false))
  else (Number.read? run).map fun w => .atom (.number w.value?)

/-- Whether `c` may be part of a number or a word. -/
def isBare (c : Char) : Bool := c.isAlphanum || c = '-' || c = '+' || c = '.'

/-- The character that a letter after a backslash stands for. -/
def unescape? : Char → Option Char
  | '"' => some '"'
  | '\\' => some '\\'
  | '/' => some '/'
  | 'b' => some (Char.ofNat 8)
  | 'f' => some (Char.ofNat 12)
  | 'n' => some '\n'
  | 'r' => some '\r'
  | 't' => some '\t'
  | _ => none

/-- The value of a hexadecimal digit. -/
def hexValue? (c : Char) : Option Nat :=
  if c.isDigit then some (c.toNat - '0'.toNat)
  else if 'a' ≤ c ∧ c ≤ 'f' then some (c.toNat - 'a'.toNat + 10)
  else if 'A' ≤ c ∧ c ≤ 'F' then some (c.toNat - 'A'.toNat + 10)
  else none

/-- Starts a lexeme: the lexemes that the character completes, and what it leaves open. -/
def start? : Char → Option (List Lexeme × Partial)
  | '[' => some ([openArray], .nothing)
  | ']' => some ([closeArray], .nothing)
  | '{' => some ([openObject], .nothing)
  | '}' => some ([closeObject], .nothing)
  | ',' => some ([comma], .nothing)
  | ':' => some ([colon], .nothing)
  | '"' => some ([], .string [])
  | c =>
    if c = ' ' ∨ c = '\n' ∨ c = '\r' ∨ c = '\t' then some ([], .nothing)
    else if isBare c then some ([], .bare [c])
    else none

/-- Reads a character: the lexemes that it completes, and what it leaves open. -/
def step? : Partial → Char → Option (List Lexeme × Partial)
  | .nothing, c => start? c
  | .bare read, c =>
    if isBare c then some ([], .bare (c :: read))
    else
      match atom? read.reverse, start? c with
      | some lexeme, some (more, rest) => some (lexeme :: more, rest)
      | _, _ => none
  | .string read, c =>
    if c = '"' then some ([.string (joinPieces read.reverse)], .nothing)
    else if c = '\\' then some ([], .escape read)
    else if c.toNat < 0x20 then none
    else some ([], .string (.char c :: read))
  | .escape read, c =>
    if c = 'u' then some ([], .code read 0 4)
    else (unescape? c).map fun d => ([], .string (.char d :: read))
  | .code read value left, c =>
    (hexValue? c).map fun digit =>
      let value := value * 16 + digit
      ([], if left ≤ 1 then .string (.unit value :: read) else .code read value (left - 1))

/-- The lexemes of the rest of a text. -/
def listFrom? : Partial → Text → Option (List Lexeme)
  | .nothing, [] => some []
  | .bare read, [] => (atom? read.reverse).map ([·])
  | _, [] => none
  | partially, c :: rest =>
    match step? partially c with
    | none => none
    | some (lexemes, next) => (listFrom? next rest).map (lexemes ++ ·)

end Lexeme

/-! ## Trees -/

/-- An array or object of which only a part has been read, with what was read last first. -/
inductive Frame where
  | array (items : List Tree)
  /-- An object whose member under `key` is being read. -/
  | object (members : List (Option Text × Tree)) (key : Option Text)
  deriving Repr

/-- What has been read of a tree, with the arrays and objects that are open, innermost first. -/
inductive Progress where
  /-- A tree must follow. -/
  | expectsTree (outer : List Frame)
  /-- After an opening bracket: a tree or the closing bracket must follow. -/
  | expectsItem (outer : List Frame)
  /-- After an opening brace: a name or the closing brace must follow. -/
  | expectsMember (outer : List Frame)
  /-- After a comma in an object: a name must follow. -/
  | expectsKey (outer : List Frame) (members : List (Option Text × Tree))
  /-- After a name: a colon must follow. -/
  | expectsColon (outer : List Frame) (members : List (Option Text × Tree)) (key : Option Text)
  /-- A tree is complete. -/
  | complete (outer : List Frame) (tree : Tree)
  deriving Repr

namespace Progress

/-- Starts a tree. -/
def start? (outer : List Frame) : Lexeme → Option Progress
  | .openArray => some (.expectsItem outer)
  | .openObject => some (.expectsMember outer)
  | .string value => some (.complete outer (.string value))
  | .atom tree => some (.complete outer tree)
  | _ => none

/-- Goes on after a complete tree in the innermost array or object. -/
def continue? (tree : Tree) : List Frame → Lexeme → Option Progress
  | .array items :: outer, .comma => some (.expectsTree (.array (tree :: items) :: outer))
  | .array items :: outer, .closeArray =>
    some (.complete outer (.array (tree :: items).reverse))
  | .object members key :: outer, .comma => some (.expectsKey outer ((key, tree) :: members))
  | .object members key :: outer, .closeObject =>
    some (.complete outer (.object ((key, tree) :: members).reverse))
  | _, _ => none

/-- Reads a lexeme. -/
def step? : Progress → Lexeme → Option Progress
  | .expectsTree outer, lexeme => start? outer lexeme
  | .expectsItem outer, .closeArray => some (.complete outer (.array []))
  | .expectsItem outer, lexeme => start? (.array [] :: outer) lexeme
  | .expectsMember outer, .closeObject => some (.complete outer (.object []))
  | .expectsMember outer, .string key => some (.expectsColon outer [] key)
  | .expectsKey outer members, .string key => some (.expectsColon outer members key)
  | .expectsColon outer members key, .colon => some (.expectsTree (.object members key :: outer))
  | .complete outer tree, lexeme => continue? tree outer lexeme
  | _, _ => none

/-- The tree that has been read, if it is complete and nothing is open around it. -/
def result? : Progress → Option Tree
  | .complete [] tree => some tree
  | _ => none

end Progress

/-- The tree that a text writes, if it writes one and nothing else. -/
def Tree.parse? (t : Text) : Option Tree :=
  (Lexeme.listFrom? .nothing t).bind fun lexemes =>
    (lexemes.foldlM Progress.step? (.expectsTree [])).bind Progress.result?

end StepScript.Json
