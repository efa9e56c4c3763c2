import StepScript.Json.Value

/-!
# Decoding: typed data from trees

A decoder reads a value of one type from a tree that may be nested `depth` deep, or refuses the
tree. Decoders do not say why they refuse: a payload that does not fit is malformed as a whole.

**Records.** A record is written as an object, or as an array of its fields in the order in which
they are declared (`fields?`). In an object, members with other names are skipped without looking
at what they hold; a declared name that occurs twice is refused. In an array, fields may be missing
at the end, and there may be no more items than fields. Whether a missing field is refused is the
record's own decision.
-/

namespace StepScript.Json

/-- Reads a value of a type from a tree nested at most so many levels deep. -/
abbrev Decoder (α : Type) := Nat → Tree → Option α

namespace Decoder

variable {α : Type}

/-- A string. -/
def string : Decoder Text
  | _, .string (some s) => some s
  | _, _ => none

/-- A truth value. -/
def bool : Decoder Bool
  | _, .bool b => some b
  | _, _ => none

/-- An integer from zero up and below `bound`. -/
def below (bound : Nat) : Decoder Nat
  | _, .number (some (.natural n)) => if n < bound then some n else none
  | _, _ => none

/-- A line number: an integer of 32 bits without sign. -/
def line : Decoder Nat := below (twoTo 32)

/-- Any value. -/
def value : Decoder Value := fun depth tree => Value.ofTree? depth tree

/-- A list. -/
def list (item : Decoder α) : Decoder (List α)
  | depth + 1, .array items => items.mapM (item depth)
  | _, _ => none

/-- A value, or null for none. -/
def optional (item : Decoder α) : Decoder (Option α)
  | _, .null => some none
  | depth, tree => (item depth tree).map some

/-- The names of members, if all of them have one. -/
def keys? (members : List (Option Text × Tree)) : Option (List Text) := members.mapM Prod.fst

/-- The fields of a record as far as they are written, in the order of the given names, and the
depth that is left for them. -/
def fields? (names : List String) : Nat → Tree → Option (Nat × List (Option Tree))
  | depth + 1, .array items =>
    if items.length ≤ names.length then
      some (depth, items.map some ++ List.replicate (names.length - items.length) none)
    else none
  | depth + 1, .object members =>
    match keys? members with
    | none => none
    | some keys =>
      if names.all fun name => keys.count name.toList ≤ 1 then
        some (depth, names.map fun name =>
          (members.find? (·.1 = some name.toList)).map Prod.snd)
      else none
  | _, _ => none

/-- A field that must be written. -/
def required (item : Decoder α) (depth : Nat) (field : Option Tree) : Option α :=
  field.bind (item depth)

/-- A field that may be missing, with the value that it then has. -/
def withDefault (item : Decoder α) (default : α) (depth : Nat) (field : Option Tree) : Option α :=
  match field with
  | none => some default
  | some tree => item depth tree

/-- Reads a text with a decoder. -/
def decode? (item : Decoder α) (t : Text) : Option α :=
  (Tree.parse? t).bind (item nestingLimit)

end Decoder

end StepScript.Json
