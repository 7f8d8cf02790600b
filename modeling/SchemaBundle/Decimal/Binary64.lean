import SchemaBundle.Decimal.Power

/-!
# Binary floating point, exactly

A finite double is a sign and a whole number of units `2 ^ exponent`. All arithmetic here is
on whole numbers: a quotient is rounded once, to the nearest double, and a tie goes to the
even significand. Nothing depends on the machine's own floating point.
-/

namespace SchemaBundle.Decimal

/--
A finite double: `± significand * 2 ^ exponent`. The significand has 53 bits, except that the
smallest exponent, `-1074`, also carries the shorter ones.
-/
structure Binary64 where
  negative : Bool
  significand : Nat
  exponent : Int
deriving DecidableEq, Repr

/-- The nearest whole number to `num / den`, a tie going to the even one. -/
def roundDiv (num den : Nat) : Nat :=
  let quotient := num / den
  let twice := 2 * (num % den)
  if twice < den then quotient
  else if den < twice then quotient + 1
  else if quotient % 2 = 0 then quotient else quotient + 1

namespace Binary64

/-- Zero, with a sign. -/
def zero (negative : Bool) : Binary64 :=
  ⟨negative, 0, -1074⟩

/-- Whether the value is zero, of either sign. -/
def isZero (x : Binary64) : Bool :=
  x.significand == 0

/-- The same magnitude with the given sign. -/
def withSign (x : Binary64) (negative : Bool) : Binary64 :=
  { x with negative }

/-- The magnitude as a quotient of whole numbers. -/
def ratio (x : Binary64) : Nat × Nat :=
  if 0 ≤ x.exponent then (x.significand * twoPow x.exponent.toNat, 1)
  else (x.significand, twoPow (-x.exponent).toNat)

/-- `num / den` counted in units of `2 ^ exponent`, as a quotient. -/
def inUnits (num den : Nat) (exponent : Int) : Nat × Nat :=
  if 0 ≤ exponent then (num, den * twoPow exponent.toNat)
  else (num * twoPow (-exponent).toNat, den)

/-- The exponent whose units give `num / den` a significand of 53 bits, or the smallest one. -/
def unitExponent (num den : Nat) : Int :=
  let estimate : Int := (Nat.log2 num : Int) - (Nat.log2 den : Int) - 53
  let (n, d) := inUnits num den estimate
  let exact := if twoPow 53 ≤ n / d then estimate + 1 else estimate
  max exact (-1074)

/-- The double nearest to `± num / den`; nothing if its magnitude is too large for one. -/
def ofRatio (negative : Bool) (num den : Nat) : Option Binary64 :=
  if num = 0 then some (zero negative)
  else
    let exponent := unitExponent num den
    let (n, d) := inUnits num den exponent
    let significand := roundDiv n d
    let rounded : Binary64 :=
      if significand = twoPow 53 then ⟨negative, twoPow 52, exponent + 1⟩
      else ⟨negative, significand, exponent⟩
    if 971 < rounded.exponent then none else some rounded

/-- The double nearest to a whole number. -/
def ofNat (n : Nat) : Option Binary64 :=
  ofRatio false n 1

/-- The rounded product of two magnitudes. -/
def mul (x y : Binary64) : Option Binary64 :=
  ofRatio (x.negative != y.negative) (x.ratio.1 * y.ratio.1) (x.ratio.2 * y.ratio.2)

/-- The rounded quotient of two magnitudes. -/
def div (x y : Binary64) : Option Binary64 :=
  ofRatio (x.negative != y.negative) (x.ratio.1 * y.ratio.2) (x.ratio.2 * y.ratio.1)

/--
The double nearest to `± digits * 10 ^ exponent`; nothing if it is too large. Exponents far
outside the range are settled without computing their power.
-/
def ofDecimal (negative : Bool) (digits : Nat) (exponent : Int) : Option Binary64 :=
  let magnitude : Int := exponent + (Nat.log2 digits : Int) / 3 + 1
  if digits = 0 then some (zero negative)
  else if 400 < exponent then none
  else if magnitude < -400 then some (zero negative)
  else if 0 ≤ exponent then ofRatio negative (digits * tenPow exponent.toNat) 1
  else ofRatio negative digits (tenPow (-exponent).toNat)

end Binary64

end SchemaBundle.Decimal
