import StepScript.Character.DecimalDigit
import StepScript.Text.Basic

/-!
# Numbers at the start of a text

**The form.** An optional sign; digits, or digits with a point before the last run of them; an
optional exponent; an optional imaginary mark and an optional long mark. The digits may be those of
any script. `numberLength` gives the length of the longest initial part of this form, and zero when
there is none: a point, a sign or an exponent mark that no digit follows is left alone.

Each part is measured by a function of its own, which gives zero for an absent part.
-/

namespace StepScript.Scan

/-- One character, if it is among the given ones. -/
def markLength (marks : List Char) : Text → Nat
  | [] => 0
  | c :: _ => if c ∈ marks then 1 else 0

/-- The length of the run of digits at the start. -/
def digitsLength (t : Text) : Nat := (t.takeWhile isDecimalDigit).length

/-- Digits, or digits with a point before the last run of them. -/
def mantissaLength (t : Text) : Nat :=
  let whole := digitsLength t
  match t.drop whole with
  | '.' :: after =>
    let fraction := digitsLength after
    if fraction = 0 then whole else whole + 1 + fraction
  | _ => whole

/-- An exponent mark, an optional sign, and digits. -/
def exponentLength (t : Text) : Nat :=
  let mark := markLength ['e', 'E'] t
  let sign := markLength ['-', '+'] (t.drop mark)
  let digits := digitsLength (t.drop (mark + sign))
  if mark = 0 ∨ digits = 0 then 0 else mark + sign + digits

/-- The length of the number at the start of a text; zero when there is none. -/
def numberLength (t : Text) : Nat :=
  let sign := markLength ['-', '+'] t
  let mantissa := mantissaLength (t.drop sign)
  if mantissa = 0 then 0
  else
    let unsigned := sign + mantissa
    let scaled := unsigned + exponentLength (t.drop unsigned)
    let imaginary := scaled + markLength ['j', 'J'] (t.drop scaled)
    imaginary + markLength ['l', 'L'] (t.drop imaginary)

end StepScript.Scan
