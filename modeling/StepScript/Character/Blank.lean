import StepScript.Character.CodeRange

/-!
# Blank characters

The 25 characters of the property White_Space. They separate the words of a step, and they may
stand before the first word of a line. A zero-width space or a byte order mark is not blank.
-/

namespace StepScript

/-- The ranges of the property White_Space. -/
def blankRanges : List (Nat × Nat) :=
  [(0x9, 0xD), (0x20, 0x20), (0x85, 0x85), (0xA0, 0xA0), (0x1680, 0x1680), (0x2000, 0x200A),
   (0x2028, 0x2029), (0x202F, 0x202F), (0x205F, 0x205F), (0x3000, 0x3000)]

/-- Whether `c` is blank. -/
def isBlank (c : Char) : Bool := inRanges blankRanges c.toNat

end StepScript
