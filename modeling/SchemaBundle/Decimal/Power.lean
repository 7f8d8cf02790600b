/-!
# Powers, and the whole numbers of a width

The powers that positional notation and words of bits need.
-/

namespace SchemaBundle.Decimal

/-- A power of two. -/
def twoPow (exponent : Nat) : Nat :=
  Nat.pow 2 exponent

/-- A power of ten. -/
def tenPow (exponent : Nat) : Nat :=
  Nat.pow 10 exponent

/-- Whether a number of bits, one of them the sign, holds a whole number. -/
def fitsSigned (bits : Nat) (n : Int) : Bool :=
  match n with
  | .ofNat n => n < twoPow (bits - 1)
  | .negSucc n => n < twoPow (bits - 1)

/-- Whether a number of bits without a sign holds a whole number. -/
def fitsUnsigned (bits : Nat) (n : Int) : Bool :=
  match n with
  | .ofNat n => n < twoPow bits
  | .negSucc _ => false

end SchemaBundle.Decimal
