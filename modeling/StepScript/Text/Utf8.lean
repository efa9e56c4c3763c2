import StepScript.Text.Basic

/-!
# UTF-8: texts from bytes

Bytes are read one at a time. The first byte of a character says how many follow and which range
the second one must be in, so that no character has two forms and none is a surrogate; any further
byte is one of the sixty-four that continue a character. `Utf8.decode` refuses bytes at the first
one that cannot go on, or at their end inside a character, and says where that character began.
-/

namespace StepScript.Utf8

/-- Why bytes are not a text. -/
inductive Fault where
  /-- The character that begins at `start` goes wrong after `length` bytes. -/
  | invalid (length start : Nat)
  /-- The bytes end inside the character that begins at `start`. -/
  | incomplete (start : Nat)
  deriving DecidableEq, Repr

/-- The text of a fault. -/
def Fault.message : Fault → Text
  | invalid length start =>
    "invalid utf-8 sequence of ".toList ++ Text.ofNat length ++ " bytes from index ".toList ++
      Text.ofNat start
  | incomplete start => "incomplete utf-8 byte sequence from index ".toList ++ Text.ofNat start

/-- A character of which some bytes have been read. -/
structure Begun where
  /-- The number made of the bits read so far. -/
  bits : Nat
  /-- The number of bytes read. -/
  read : Nat
  /-- The number of bytes that follow the next one. -/
  after : Nat
  /-- The least value of the next byte. -/
  least : Nat
  /-- The greatest value of the next byte. -/
  greatest : Nat
  deriving DecidableEq, Repr

/-- The character that a first byte begins; none when the byte begins no character of several. -/
def begin? (byte : Nat) : Option Begun :=
  if 0xC2 ≤ byte ∧ byte ≤ 0xDF then some ⟨byte - 0xC0, 1, 0, 0x80, 0xBF⟩
  else if byte = 0xE0 then some ⟨0, 1, 1, 0xA0, 0xBF⟩
  else if byte = 0xED then some ⟨0xD, 1, 1, 0x80, 0x9F⟩
  else if 0xE1 ≤ byte ∧ byte ≤ 0xEF then some ⟨byte - 0xE0, 1, 1, 0x80, 0xBF⟩
  else if byte = 0xF0 then some ⟨0, 1, 2, 0x90, 0xBF⟩
  else if 0xF1 ≤ byte ∧ byte ≤ 0xF3 then some ⟨byte - 0xF0, 1, 2, 0x80, 0xBF⟩
  else if byte = 0xF4 then some ⟨4, 1, 2, 0x80, 0x8F⟩
  else none

/-- Whether a byte may be the next one. -/
def Begun.admits (b : Begun) (byte : Nat) : Bool := b.least ≤ byte && byte ≤ b.greatest

/-- The number of a begun character with one more byte. -/
def Begun.join (b : Begun) (byte : Nat) : Nat := 64 * b.bits + (byte - 0x80)

/-- The text of bytes, inside the character `begun` if there is one, of which the first byte, or
the next one, is at `start`. -/
def decodeFrom (start : Nat) (begun : Option Begun) : List UInt8 → Except Fault Text
  | [] =>
    match begun with
    | none => .ok []
    | some _ => .error (.incomplete start)
  | byte :: rest =>
    match begun with
    | none =>
      if byte.toNat < 0x80 then
        (decodeFrom (start + 1) none rest).map (Char.ofNat byte.toNat :: ·)
      else
        match begin? byte.toNat with
        | some b => decodeFrom start (some b) rest
        | none => .error (.invalid 1 start)
    | some b =>
      if b.admits byte.toNat then
        match b.after with
        | 0 =>
          (decodeFrom (start + b.read + 1) none rest).map (Char.ofNat (b.join byte.toNat) :: ·)
        | after + 1 =>
          decodeFrom start (some ⟨b.join byte.toNat, b.read + 1, after, 0x80, 0xBF⟩) rest
      else .error (.invalid b.read start)

/-- The text of bytes. -/
def decode (bytes : List UInt8) : Except Fault Text := decodeFrom 0 none bytes

end StepScript.Utf8
