/-!
# Binary floating-point numbers, read from decimals and shown as decimals

A number of 64 bits is a mantissa below `2 ^ 53` times a power of two. A decimal is read as the number nearest
to it, a tie going to the even mantissa. A number is shown with the fewest digits that read back as it, in
positional notation or, where a style asks for it, with an exponent.

## Main definitions

* `Binary64` - the numbers, infinities and not-a-number
* `Binary64.ofDecimal` - the number nearest to a decimal
* `Binary64.display` - the text of a number
-/

namespace BrokerSession

/-- A floating-point number; a finite one is `mantissa * 2 ^ exponent` with its sign in front. -/
inductive Binary64 where
  | nan
  | infinite (negative : Bool)
  | finite (negative : Bool) (mantissa : Nat) (exponent : Int)
  deriving DecidableEq, Repr, Inhabited

namespace Binary64

/-- The smallest exponent of a finite number. -/
def minExponent : Int := -1074

/-- The largest exponent of a finite number. -/
def maxExponent : Int := 971

/-- The smallest mantissa of a number that is written with all of its bits. -/
def leastFull : Nat := 4503599627370496

/-- A power of a base; one, where the exponent is below zero. -/
def power (base : Nat) (e : Int) : Nat := Nat.pow base e.toNat

/-- A quotient rounded to the nearest number, a tie going to the even one. -/
def roundDiv (num den : Nat) : Nat :=
  let q := num / den
  let twice := 2 * (num % den)
  if den < twice ∨ (twice = den ∧ q % 2 = 1) then q + 1 else q

/-- `num / (den * 2 ^ e)`, rounded. -/
def scaled (num den : Nat) (e : Int) : Nat :=
  roundDiv (num * power 2 (-e)) (den * power 2 e)

/-- The number nearest to a positive quotient. -/
def ofQuotient (negative : Bool) (num den : Nat) : Binary64 :=
  let guess : Int := (Nat.log2 num : Int) - Nat.log2 den - 52
  -- The guess is right, or one too large.
  let e := max minExponent (if scaled num den guess < leastFull then guess - 1 else guess)
  let m := scaled num den e
  let (m, e) := if m = 2 * leastFull then (leastFull, e + 1) else (m, e)
  if maxExponent < e then infinite negative else finite negative m e

/-- The number nearest to `mantissa * 10 ^ exponent`. -/
def ofDecimal (negative : Bool) (mantissa : Nat) (exponent : Int) : Binary64 :=
  let digits : Int := (Nat.toDigits 10 mantissa).length
  if mantissa = 0 ∨ digits + exponent < -400 then finite negative 0 minExponent
  else if 400 < digits + exponent then infinite negative
  else ofQuotient negative (mantissa * power 10 exponent) (power 10 (-exponent))

/-- A decimal `digits * 10 ^ exponent`. -/
structure Decimal where
  digits : Nat
  exponent : Int

/-- The decimals on the grid of a power of ten that lie within half a step of a finite number, so that they
read back as it; the nearer of two. All quantities are in quarters of the last binary place. -/
def nearestOnGrid? (mantissa : Nat) (exponent grid : Int) : Option Decimal :=
  let value := 4 * mantissa
  let low := if mantissa = leastFull ∧ minExponent < exponent then value - 1 else value - 2
  let high := value + 2
  -- `x / 4 * 2 ^ exponent` is compared with `n * 10 ^ grid` as `x * a` with `n * b`.
  let two := exponent - 2
  let a := power 2 two * power 10 (-grid)
  let b := power 2 (-two) * power 10 grid
  let inside (n : Nat) : Bool :=
    if mantissa % 2 = 0 then low * a ≤ n * b && n * b ≤ high * a
    else low * a < n * b && n * b < high * a
  let below := value * a / b
  let above := below + 1
  let pickAbove := 2 * (value * a - below * b) > b
  match inside below && 0 < below, inside above with
  | true, true => some ⟨if pickAbove then above else below, grid⟩
  | true, false => some ⟨below, grid⟩
  | false, true => some ⟨above, grid⟩
  | false, false => none

/-- The decimal with the fewest digits that reads back as a finite number other than zero. -/
def shortest (mantissa : Nat) (exponent : Int) : Decimal :=
  -- The leading digit stands at or just above this place: three tenths bound the logarithm of two.
  let top : Int := ((Nat.log2 mantissa : Int) + exponent) * 30103 / 100000 + 2
  let grids : List Int := (List.range 22).map fun (n : Nat) => top - Int.ofNat n
  (grids.findSome? (nearestOnGrid? mantissa exponent)).getD ⟨mantissa, 0⟩

/-- A decimal in positional notation, with at least one digit on either side of the point. -/
def Decimal.positional (d : Decimal) : String :=
  let digits := Nat.toDigits 10 d.digits
  if 0 ≤ d.exponent then
    String.ofList (digits ++ List.replicate d.exponent.toNat '0' ++ ['.', '0'])
  else
    let places := (-d.exponent).toNat
    let padded := List.replicate (places + 1 - digits.length) '0' ++ digits
    let whole := padded.length - places
    String.ofList (padded.take whole ++ '.' :: padded.drop whole)

/-- A decimal in positional notation where its point stands within or near its digits, and with an exponent
after the letter `e` elsewhere. -/
def Decimal.compact (d : Decimal) : String :=
  let digits := Nat.toDigits 10 d.digits
  let point := d.exponent + digits.length
  if -5 < point ∧ point ≤ 16 then d.positional
  else
    let fraction := match digits.drop 1 with
      | [] => []
      | rest => '.' :: rest
    String.ofList (digits.take 1 ++ fraction) ++ "e" ++ toString (point - 1)

/-- How a number is written. -/
inductive Style where
  /-- Always in positional notation. -/
  | positional
  /-- With an exponent for very large and very small numbers. -/
  | compact
  deriving DecidableEq, Repr

/-- The text of a number. -/
def display (style : Style) : Binary64 → String
  | nan => "NaN"
  | infinite negative => if negative then "-inf" else "inf"
  | finite negative mantissa exponent =>
    let size := if mantissa = 0 then ⟨0, 0⟩ else shortest mantissa exponent
    (if negative then "-" else "") ++
      match style with
      | .positional => size.positional
      | .compact => size.compact

end Binary64

end BrokerSession
