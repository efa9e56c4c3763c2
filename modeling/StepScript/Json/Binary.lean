/-!
# Binary fractions of 53 bits, and their shortest decimals

**Rounding.** Numbers with a point or an exponent are held as binary fractions with 53 bits, the
values of the usual 64-bit floating-point format. Everything is computed exactly in natural numbers
and rounded once, to the nearest value and to the even one of two equally near (`Binary.nearest`).

**Shortest decimals.** A value is written with the fewest decimal digits that still round to it
(`Binary.shortest`). For each number of digits the two neighbours of the value on the decimal grid
are tested against the interval of numbers that round to the value (`Binary.holds`); the first grid
with a hit wins, and of two hits the nearer one.
-/

namespace StepScript.Json

/-- The binary fraction `mantissa · 2 ^ exponent`. -/
structure Binary where
  mantissa : Nat
  exponent : Int
  deriving DecidableEq, Repr

/-- The decimal fraction `digits · 10 ^ exponent`. -/
structure Decimal where
  digits : Nat
  exponent : Int
  deriving DecidableEq, Repr

/-- A power of two. -/
def twoTo (k : Nat) : Nat := Nat.pow 2 k

/-- A power of ten. -/
def tenTo (k : Nat) : Nat := Nat.pow 10 k

/-! ## Rounding -/

/-- The quotient rounded to the nearest integer, and to the even one of two equally near. -/
def roundedQuotient (numerator denominator : Nat) : Nat :=
  let quotient := numerator / denominator
  let remainder := numerator % denominator
  if 2 * remainder < denominator then quotient
  else if denominator < 2 * remainder then quotient + 1
  else quotient + quotient % 2

namespace Binary

/-- Zero. -/
def zero : Binary := ⟨0, -1074⟩

/-- The numerator and denominator of `numerator / denominator` in units of `2 ^ exponent`. -/
def inUnits (numerator denominator : Nat) (exponent : Int) : Nat × Nat :=
  (numerator * twoTo (-exponent).toNat, denominator * twoTo exponent.toNat)

/-- The exponent of the last of the 53 bits of a positive quotient, at least the least one. -/
def lastBit (numerator denominator : Nat) : Int :=
  let guess : Int := (numerator.log2 : Int) - denominator.log2 - 53
  let scaled := inUnits numerator denominator guess
  max (if twoTo 53 ≤ scaled.1 / scaled.2 then guess + 1 else guess) (-1074)

/-- The value nearest to a quotient; none when the quotient is too large. -/
def nearest (numerator denominator : Nat) : Option Binary :=
  if numerator = 0 then some zero
  else
    let exponent := lastBit numerator denominator
    let scaled := inUnits numerator denominator exponent
    let mantissa := roundedQuotient scaled.1 scaled.2
    let value : Binary :=
      if mantissa = twoTo 53 then ⟨twoTo 52, exponent + 1⟩ else ⟨mantissa, exponent⟩
    if value.exponent ≤ 971 then some value else none

/-- The product of two values, rounded. -/
def mul (x y : Binary) : Option Binary :=
  let scale := x.exponent + y.exponent
  nearest (x.mantissa * y.mantissa * twoTo scale.toNat) (twoTo (-scale).toNat)

/-- The quotient of a value by a positive one, rounded. -/
def div (x y : Binary) : Option Binary :=
  let scale := x.exponent - y.exponent
  nearest (x.mantissa * twoTo scale.toNat) (y.mantissa * twoTo (-scale).toNat)

/-- The value nearest to a power of ten. -/
def powerOfTen (k : Nat) : Option Binary := nearest (tenTo k) 1

/-! ## Shortest decimals -/

/-- Compares `a · 10 ^ i` with `n · 2 ^ j`. -/
def compareScaled (a : Nat) (i : Int) (n : Nat) (j : Int) : Ordering :=
  compare (a * tenTo i.toNat * twoTo (-j).toNat) (n * twoTo j.toNat * tenTo (-i).toNat)

/-- Whether a decimal lies in the interval of numbers that round to the value. The interval reaches
half way to the neighbours, and its ends belong to it when the mantissa is even. The neighbour
below a power of two is only half as far away as the one above. -/
def holds (x : Binary) (d : Decimal) : Bool :=
  let below := if x.mantissa = twoTo 52 ∧ -1074 < x.exponent then 1 else 2
  let low := compareScaled d.digits d.exponent (4 * x.mantissa - below) (x.exponent - 2)
  let high := compareScaled d.digits d.exponent (4 * x.mantissa + 2) (x.exponent - 2)
  let even := x.mantissa % 2 = 0
  (low = .gt ∨ (even ∧ low = .eq)) ∧ (high = .lt ∨ (even ∧ high = .eq))

/-- The number of digits before the decimal point of a positive value; minus the number of zeros
after the point when the value is less than one. -/
def magnitude (x : Binary) : Int :=
  let whole := x.mantissa * twoTo x.exponent.toNat / twoTo (-x.exponent).toNat
  if whole = 0 then
    -(((List.range 400).find? fun zeros =>
        twoTo (-x.exponent).toNat ≤ x.mantissa * tenTo (zeros + 1)).getD 400 : Nat)
  else ((Nat.toDigits 10 whole).length : Int)

/-- The decimal on the grid of `10 ^ exponent` that is nearest to the value among those that round
to it, if there is one. -/
def onGrid? (x : Binary) (exponent : Int) : Option Decimal :=
  let numerator := x.mantissa * twoTo x.exponent.toNat * tenTo (-exponent).toNat
  let denominator := twoTo (-x.exponent).toNat * tenTo exponent.toNat
  let floor := numerator / denominator
  match x.holds ⟨floor, exponent⟩, x.holds ⟨floor + 1, exponent⟩ with
  | true, true => some ⟨roundedQuotient numerator denominator, exponent⟩
  | true, false => some ⟨floor, exponent⟩
  | false, true => some ⟨floor + 1, exponent⟩
  | false, false => none

/-- The decimal with trailing zeros of the digits moved into the exponent, at most `limit` of
them. -/
def dropZeros : Nat → Decimal → Decimal
  | 0, d => d
  | limit + 1, d =>
    if d.digits ≠ 0 ∧ d.digits % 10 = 0 then dropZeros limit ⟨d.digits / 10, d.exponent + 1⟩ else d

/-- The decimal with the fewest digits that rounds to the value. -/
def shortest (x : Binary) : Decimal :=
  if x.mantissa = 0 then ⟨0, 0⟩
  else
    let found := (List.range 17).findSome? fun digits =>
      x.onGrid? (x.magnitude - (digits + 1 : Nat))
    dropZeros 20 (found.getD ⟨0, 0⟩)

end Binary

end StepScript.Json
