import StepScript.Json.Binary
import StepScript.Text.Basic

/-!
# Numbers in data

**Values.** An integer that fits 64 bits, with or without sign, is kept as it is. Every other
number is a binary fraction, and is kept as the shortest decimal that identifies it (`Number`).
Minus zero is such a fraction.

**Reading.** The digits of a number are gathered into a whole number as long as it fits 64 bits;
the digits that no longer fit only move the point (`Gathered`). The gathered number is rounded to a
fraction and scaled by a power of ten in one more rounded operation, or two when the exponent is
far below the range (`scaled?`). A number beyond the largest fraction has no value.

**Writing.** A fraction is written positionally from `0.00001` up to sixteen digits before the
point, always with a digit after the point, and with a signed exponent otherwise.
-/

namespace StepScript.Json

/-- A number. -/
inductive Number where
  /-- An integer from zero up, below `2 ^ 64`. -/
  | natural (n : Nat)
  /-- The integer `-n`, for `n` from one up to `2 ^ 63`. -/
  | negative (n : Nat)
  /-- A fraction, as its sign and the shortest decimal of its size. -/
  | fraction (minus : Bool) (size : Decimal)
  deriving DecidableEq, Repr

namespace Number

/-! ## The form of a number -/

/-- A number as it is written. -/
structure Written where
  minus : Bool
  whole : Text
  /-- The digits after the point. -/
  decimals : Text
  /-- The sign of the exponent, true for minus, and its digits. -/
  exponent : Option (Bool × Text)
  deriving DecidableEq, Repr

/-- The digits at the start of a text, and what follows them. -/
def splitDigits (t : Text) : Text × Text := (t.takeWhile Char.isDigit, t.dropWhile Char.isDigit)

/-- Reads the exponent that makes up the rest of a number. -/
def readExponent? : Text → Option (Option (Bool × Text))
  | [] => some none
  | mark :: rest =>
    if mark = 'e' ∨ mark = 'E' then
      let minus := rest.head? = some '-'
      let digits := if minus ∨ rest.head? = some '+' then rest.drop 1 else rest
      if digits ≠ [] ∧ digits.all Char.isDigit then some (some (minus, digits)) else none
    else none

/-- Reads a number: a whole part without superfluous zeros, decimals, and an exponent. -/
def read? (t : Text) : Option Written :=
  let minus := t.head? = some '-'
  let unsigned := if minus then t.drop 1 else t
  let (whole, afterWhole) := splitDigits unsigned
  if whole = [] ∨ (whole.head? = some '0' ∧ whole ≠ ['0']) then none
  else
    match afterWhole with
    | '.' :: rest =>
      let (decimals, afterDecimals) := splitDigits rest
      if decimals = [] then none
      else (readExponent? afterDecimals).map fun e => ⟨minus, whole, decimals, e⟩
    | rest => (readExponent? rest).map fun e => ⟨minus, whole, [], e⟩

/-! ## The value of a number -/

/-- The value of a decimal digit. -/
def digitValue (c : Char) : Nat := c.toNat - '0'.toNat

/-- Appends digits to a number while it stays below `2 ^ 64`, and gives the number and the digits
that are left over. -/
def gather (n : Nat) : Text → Nat × Text
  | [] => (n, [])
  | c :: rest =>
    if n * 10 + digitValue c < twoTo 64 then gather (n * 10 + digitValue c) rest else (n, c :: rest)

/-- The number that the digits of an exponent make. -/
def exponentValue (digits : Text) : Nat := digits.foldl (fun n c => n * 10 + digitValue c) 0

/-- `n · 10 ^ exponent`, as the rounded value of `n` scaled by rounded powers of ten. -/
def scaled? (n : Nat) (exponent : Int) : Option Binary := do
  let start ← Binary.nearest n 1
  if 0 ≤ exponent then
    if exponent ≤ 308 then start.mul (← Binary.powerOfTen exponent.toNat)
    else if n = 0 then some Binary.zero
    else none
  else if -308 ≤ exponent then start.div (← Binary.powerOfTen (-exponent).toNat)
  else if -616 ≤ exponent then
    let near ← start.div (← Binary.powerOfTen 308)
    near.div (← Binary.powerOfTen (-exponent - 308).toNat)
  else some Binary.zero

/-- The value of a written number, if it is not too large. -/
def Written.value? (w : Written) : Option Number :=
  let (whole, dropped) := gather 0 w.whole
  let (digits, unused) := gather whole w.decimals
  let used := w.decimals.length - unused.length
  let point : Int := (dropped.length : Int) - used
  let fraction (size : Option Binary) : Option Number :=
    size.map fun b => .fraction w.minus b.shortest
  match w.exponent with
  | some (minus, exponent) =>
    let e := exponentValue exponent
    if e < twoTo 31 then fraction (scaled? digits (if minus then point - e else point + e))
    else if digits = 0 ∨ minus then fraction (some Binary.zero)
    else none
  | none =>
    if w.decimals ≠ [] ∨ dropped ≠ [] then fraction (scaled? digits point)
    else if !w.minus then some (.natural digits)
    else if 0 < digits ∧ digits ≤ twoTo 63 then some (.negative digits)
    else fraction (scaled? digits 0)

/-! ## Writing -/

/-- A run of zeros. -/
def zeros (n : Nat) : Text := List.replicate n '0'

/-- A decimal in positional form, with at least one digit on each side of the point. -/
def positional (digits : Text) (point : Int) : Text :=
  if point ≤ 0 then ['0', '.'] ++ zeros (-point).toNat ++ digits
  else if digits.length ≤ point then
    digits ++ zeros (point.toNat - digits.length) ++ ['.', '0']
  else digits.take point.toNat ++ '.' :: digits.drop point.toNat

/-- A decimal with one digit before the point and a signed exponent. -/
def scientific (digits : Text) (exponent : Int) : Text :=
  let mantissa :=
    match digits with
    | [] => []
    | [d] => [d]
    | d :: rest => d :: '.' :: rest
  mantissa ++ 'e' :: (if exponent < 0 then '-' else '+') :: Text.ofNat exponent.natAbs

/-- The size of a fraction. The point stands after `point` digits. -/
def fractionText (size : Decimal) : Text :=
  let digits := Text.ofNat size.digits
  let point : Int := digits.length + size.exponent
  if size.digits = 0 then ['0', '.', '0']
  else if -5 < point ∧ point ≤ 16 then positional digits point
  else scientific digits (point - 1)

/-- The text of a number. -/
def toText : Number → Text
  | natural n => Text.ofNat n
  | negative n => '-' :: Text.ofNat n
  | fraction minus size => (if minus then ['-'] else []) ++ fractionText size

end Number

end StepScript.Json
