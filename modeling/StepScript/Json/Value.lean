import StepScript.Json.Tree

/-!
# Values: what data means

**From trees.** A tree has a value when every string and number in it has one and arrays and
objects are not nested deeper than a limit (`Value.ofTree?`). The members of an object are kept in
the order of their names, and of members with one name the last one counts.

**To text.** A value is written without blanks (`Value.compact`), or over several lines with each
level indented by two spaces (`Value.pretty`). A record is written with its members in the order in
which the record lists them, so `Value.object` takes any order of members and the order of names
is the business of `ofTree?`.
-/

namespace StepScript.Json

/-- Data, as what it means. -/
inductive Value where
  | null
  | bool (value : Bool)
  | number (value : Number)
  | string (value : Text)
  | array (items : List Value)
  | object (members : List (Text × Value))
  deriving Inhabited, Repr

/-- How deep arrays and objects may be nested. -/
def nestingLimit : Nat := 127

namespace Value

/-- Writes a member into members that are in the order of their names. -/
def insertMember (key : Text) (value : Value) : List (Text × Value) → List (Text × Value)
  | [] => [(key, value)]
  | member :: rest =>
    match compare key member.1 with
    | .lt => (key, value) :: member :: rest
    | .eq => (key, value) :: rest
    | .gt => member :: insertMember key value rest

/-- The members in the order of their names; of members with one name the last one counts. -/
def sortMembers (members : List (Text × Value)) : List (Text × Value) :=
  members.foldl (fun sorted m => insertMember m.1 m.2 sorted) []

mutual

/-- The value of a tree that is nested at most `depth` deep. -/
def ofTree? (depth : Nat) : Tree → Option Value
  | .null => some null
  | .bool b => some (bool b)
  | .number n => n.map number
  | .string s => s.map string
  | .array items =>
    match depth with
    | 0 => none
    | inner + 1 => (ofTrees? inner items).map array
  | .object members =>
    match depth with
    | 0 => none
    | inner + 1 => (ofMembers? inner members).map fun ms => object (sortMembers ms)

/-- The values of trees. -/
def ofTrees? (depth : Nat) : List Tree → Option (List Value)
  | [] => some []
  | t :: rest =>
    match ofTree? depth t, ofTrees? depth rest with
    | some v, some vs => some (v :: vs)
    | _, _ => none

/-- The values of members, with their names. -/
def ofMembers? (depth : Nat) : List (Option Text × Tree) → Option (List (Text × Value))
  | [] => some []
  | (key, t) :: rest =>
    match key, ofTree? depth t, ofMembers? depth rest with
    | some k, some v, some vs => some ((k, v) :: vs)
    | _, _, _ => none

end

/-- The value that a text writes. -/
def parse? (t : Text) : Option Value := (Tree.parse? t).bind (ofTree? nestingLimit)

mutual

/-- A value as a tree. -/
def toTree : Value → Tree
  | null => .null
  | bool b => .bool b
  | number n => .number (some n)
  | string s => .string (some s)
  | array items => .array (toTrees items)
  | object members => .object (toMembers members)

/-- Values as trees. -/
def toTrees : List Value → List Tree
  | [] => []
  | v :: rest => toTree v :: toTrees rest

/-- Members as members of a tree. -/
def toMembers : List (Text × Value) → List (Option Text × Tree)
  | [] => []
  | (key, v) :: rest => (some key, toTree v) :: toMembers rest

end

/-! ## Looking inside -/

/-- The string that a value is. -/
def string? : Value → Option Text
  | string s => some s
  | _ => none

/-- The truth value that a value is. -/
def bool? : Value → Option Bool
  | bool b => some b
  | _ => none

/-- The integer from zero up that a value is. -/
def natural? : Value → Option Nat
  | number (.natural n) => some n
  | _ => none

/-- The integer that a value is. -/
def integer? : Value → Option Int
  | number (.natural n) => some n
  | number (.negative n) => some (-n)
  | _ => none

/-- The items of an array. -/
def items? : Value → Option (List Value)
  | array items => some items
  | _ => none

/-- The member of an object under a name. -/
def member? (v : Value) (key : String) : Option Value :=
  match v with
  | object members => (members.find? (·.1 = key.toList)).map Prod.snd
  | _ => none

/-! ## Writing -/

/-- A hexadecimal digit below sixteen, in lower case. -/
def hexDigit (n : Nat) : Char :=
  if n < 10 then Char.ofNat ('0'.toNat + n) else Char.ofNat ('a'.toNat + n - 10)

/-- A character of a string. Only quotes, backslashes and control characters are escaped. -/
def escapeChar (c : Char) : Text :=
  if c = '"' then ['\\', '"']
  else if c = '\\' then ['\\', '\\']
  else if c = '\n' then ['\\', 'n']
  else if c = '\r' then ['\\', 'r']
  else if c = '\t' then ['\\', 't']
  else if c.toNat = 8 then ['\\', 'b']
  else if c.toNat = 12 then ['\\', 'f']
  else if c.toNat < 0x20 then
    ['\\', 'u', '0', '0', hexDigit (c.toNat / 16), hexDigit (c.toNat % 16)]
  else [c]

/-- A string in quotes. -/
def quote (s : Text) : Text := '"' :: s.flatMap escapeChar ++ ['"']

mutual

/-- A value without blanks. -/
def compact : Value → Text
  | null => "null".toList
  | bool true => "true".toList
  | bool false => "false".toList
  | number n => n.toText
  | string s => quote s
  | array items => '[' :: [','].intercalate (compactItems items) ++ [']']
  | object members => '{' :: [','].intercalate (compactMembers members) ++ ['}']

/-- Values without blanks. -/
def compactItems : List Value → List Text
  | [] => []
  | v :: rest => compact v :: compactItems rest

/-- Members without blanks. -/
def compactMembers : List (Text × Value) → List Text
  | [] => []
  | (key, v) :: rest => (quote key ++ ':' :: compact v) :: compactMembers rest

end

/-- The items of an array or object between its brackets, each on a line of its own. -/
def block (level : Nat) (opening closing : Char) (items : List Text) : Text :=
  let newLine (n : Nat) : Text := '\n' :: List.replicate (2 * n) ' '
  if items = [] then [opening, closing]
  else
    opening :: newLine (level + 1) ++ (',' :: newLine (level + 1)).intercalate items ++
      newLine level ++ [closing]

mutual

/-- A value over several lines, inside `level` arrays and objects. -/
def prettyAt (level : Nat) : Value → Text
  | array items => block level '[' ']' (prettyItems (level + 1) items)
  | object members => block level '{' '}' (prettyMembers (level + 1) members)
  | null => "null".toList
  | bool true => "true".toList
  | bool false => "false".toList
  | number n => n.toText
  | string s => quote s

/-- Values over several lines. -/
def prettyItems (level : Nat) : List Value → List Text
  | [] => []
  | v :: rest => prettyAt level v :: prettyItems level rest

/-- Members over several lines. -/
def prettyMembers (level : Nat) : List (Text × Value) → List Text
  | [] => []
  | (key, v) :: rest => (quote key ++ ':' :: ' ' :: prettyAt level v) :: prettyMembers level rest

end

/-- A value over several lines. -/
def pretty (v : Value) : Text := prettyAt 0 v

/-- The text that a value stands for: that of a string, else the value without blanks. -/
def asText : Value → Text
  | string s => s
  | other => other.compact

/-! ## The order of members -/

mutual

/-- The value with the members of every object in the order of their names. -/
def byName : Value → Value
  | array items => array (itemsByName items)
  | object members => object (sortMembers (membersByName members))
  | other => other

/-- Values with their members in order. -/
def itemsByName : List Value → List Value
  | [] => []
  | v :: rest => byName v :: itemsByName rest

/-- Members whose values have their members in order. -/
def membersByName : List (Text × Value) → List (Text × Value)
  | [] => []
  | (key, v) :: rest => (key, byName v) :: membersByName rest

end

/-! ## Building -/

/-- A string value. -/
def ofString (s : String) : Value := string s.toList

/-- A number value. -/
def ofNat (n : Nat) : Value := number (.natural n)

/-- A number value. -/
def ofInt : Int → Value
  | .ofNat n => number (.natural n)
  | .negSucc n => number (.negative (n + 1))

/-- An object with the given members. -/
def record (members : List (String × Value)) : Value :=
  object (members.map fun m => (m.1.toList, m.2))

/-- The value, or null if there is none. -/
def orNull (v : Option Value) : Value := v.getD null

end Value

end StepScript.Json
