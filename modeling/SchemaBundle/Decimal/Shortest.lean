import SchemaBundle.Decimal.Binary64

/-!
# The shortest decimal of a double

Among the decimals that read back as a given double, the one with the fewest digits, and of
those the nearest. A decimal reads back when it lies between the midpoints to the two
neighbouring doubles; the midpoints themselves count if the significand is even.

For each number of digits only the two grid points around the value are tried: if any point of
the grid reads back, so does one of these.
-/

namespace SchemaBundle.Decimal

/-- A decimal numeral: `coefficient * 10 ^ exponent`. -/
structure Numeral where
  coefficient : Nat
  exponent : Int
deriving DecidableEq, Repr

/-- A decimal as a quotient of whole numbers. -/
def Numeral.ratio (d : Numeral) : Nat × Nat :=
  if 0 ≤ d.exponent then (d.coefficient * tenPow d.exponent.toNat, 1)
  else (d.coefficient, tenPow (-d.exponent).toNat)

/-- Whether one quotient is below another, or equal to it where `orEqual` allows. -/
def below (orEqual : Bool) (a b : Nat × Nat) : Bool :=
  a.1 * b.2 < b.1 * a.2 || (orEqual && a.1 * b.2 == b.1 * a.2)

/-- The value and the midpoints around it, counted in quarters of the double's unit. -/
def quarters (x : Binary64) : Nat × Nat × Nat :=
  let value := 4 * x.significand
  let narrow := x.significand == twoPow 52 && x.exponent != -1074
  (value, if narrow then value - 1 else value - 2, value + 2)

/-- A number of quarter units of a double, as a quotient. -/
def quarterRatio (x : Binary64) (count : Nat) : Nat × Nat :=
  Binary64.ratio ⟨false, count, x.exponent - 2⟩

/-- Whether a decimal reads back as the double. -/
def readsBack (x : Binary64) (d : Numeral) : Bool :=
  let (_, low, high) := quarters x
  let even := x.significand % 2 == 0
  below even (quarterRatio x low) d.ratio && below even d.ratio (quarterRatio x high)

/-- The power of ten of the first digit of `num / den`. -/
def leadingPower (num den : Nat) : Int :=
  if den ≤ num then ((Nat.toDigits 10 (num / den)).length : Int) - 1
  else -((Nat.toDigits 10 ((den - 1) / num)).length : Int)

/-- The two points around `num / den` on the grid of multiples of `10 ^ power`. -/
def gridNeighbours (num den : Nat) (power : Int) : Numeral × Numeral :=
  let count :=
    if 0 ≤ power then num / (den * tenPow power.toNat) else num * tenPow (-power).toNat / den
  (⟨count, power⟩, ⟨count + 1, power⟩)

/-- Whether the first decimal is at most as far from `num / den`, between them, as the second. -/
def nearerBelow (num den : Nat) (low high : Numeral) : Bool :=
  let (a, b) := low.ratio
  let (c, d) := high.ratio
  below true (2 * num, den) (a * d + c * b, b * d)

/-- A decimal with the given number of digits that reads back, the nearest if there are two. -/
def withDigits? (x : Binary64) (count : Nat) : Option Numeral :=
  let (num, den) := x.ratio
  let (low, high) := gridNeighbours num den (leadingPower num den - count + 1)
  match readsBack x low, readsBack x high with
  | true, true => some (if nearerBelow num den low high then low else high)
  | true, false => some low
  | false, true => some high
  | false, false => none

/-- Removes the zeros at the end of the coefficient. -/
def Numeral.normalize (d : Numeral) : Numeral :=
  if d.coefficient = 0 then ⟨0, 0⟩
  else if d.coefficient % 10 = 0 then normalize ⟨d.coefficient / 10, d.exponent + 1⟩
  else d
termination_by d.coefficient
decreasing_by exact Nat.div_lt_self (by omega) (by omega)

/-- The shortest decimal that reads back as a double. Seventeen digits always do. -/
def shortest (x : Binary64) : Numeral :=
  if x.isZero then ⟨0, 0⟩
  else (((List.range 17).findSome? fun n => withDigits? x (n + 1)).getD ⟨0, 0⟩).normalize

/-! ## Text -/

/--
How a double is written. Of a value whose point stands `point` places after its first digit,
`lowestPoint < point ≤ highestPoint` writes all digits out, with `.0` after a whole number; any
other is written with one digit before the point and an exponent.
-/
structure FloatStyle where
  lowestPoint : Int
  highestPoint : Int
  /-- What introduces an exponent that is not negative. -/
  raised : String
  /-- What introduces a negative exponent. -/
  lowered : String

/-- A run of zeros. -/
def zeros (count : Nat) : String :=
  String.ofList (List.replicate count '0')

/-- The digits with a point after the first `point` of them. -/
def placePoint (digits : List Char) (point : Nat) : String :=
  String.ofList (digits.take point) ++ "." ++ String.ofList (digits.drop point)

/-- The text of a decimal. -/
def FloatStyle.decimalText (style : FloatStyle) (d : Numeral) : String :=
  let digits := Nat.toDigits 10 d.coefficient
  let point : Int := d.exponent + digits.length
  if d.coefficient = 0 then "0.0"
  else if style.lowestPoint < point ∧ point ≤ style.highestPoint then
    if 0 ≤ d.exponent then String.ofList digits ++ zeros d.exponent.toNat ++ ".0"
    else if 0 < point then placePoint digits point.toNat
    else "0." ++ zeros (-point).toNat ++ String.ofList digits
  else
    let mantissa := if digits.length = 1 then String.ofList digits else placePoint digits 1
    let power := point - 1
    mantissa ++ (if 0 ≤ power then style.raised else style.lowered) ++ toString power.natAbs

/-- The text of a double. -/
def FloatStyle.text (style : FloatStyle) (x : Binary64) : String :=
  (if x.negative then "-" else "") ++ style.decimalText (shortest x)

end SchemaBundle.Decimal
