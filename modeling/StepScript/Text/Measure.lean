import StepScript.Text.Basic

/-!
# Measures: bytes and sixteen-bit units

Positions are counted in two units beside characters. Token spans are offsets in UTF-8 bytes;
positions of the language server protocol count sixteen-bit units, so a character above U+FFFF
takes two. Both are sums over the characters of a text.
-/

namespace StepScript

/-- The number of sixteen-bit units of a character. -/
def unitSize (c : Char) : Nat := if c.toNat < 0x10000 then 1 else 2

namespace Text

/-- The length of a text in UTF-8 bytes. -/
def byteLength : Text → Nat
  | [] => 0
  | c :: rest => c.utf8Size + byteLength rest

/-- The length of a text in sixteen-bit units. -/
def unitLength : Text → Nat
  | [] => 0
  | c :: rest => unitSize c + unitLength rest

/-- The part of a line before a position counted in sixteen-bit units: the shortest initial part
that takes at least so many units, or the whole line when it is shorter. A position inside a
character is thereby moved behind that character. -/
def beforeUnit : Nat → Text → Text
  | 0, _ => []
  | _, [] => []
  | position + 1, c :: rest => c :: beforeUnit (position + 1 - unitSize c) rest

end Text

end StepScript
