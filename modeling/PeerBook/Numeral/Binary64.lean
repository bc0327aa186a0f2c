/-!
# Rounding to binary64

Positive rational numbers rounded to the nearest IEEE 754 double (binary64), ties to the even
significand, and products of doubles rounded again. A double is kept as a significand `m` of
53 bits (from 2^52 to 2^53 - 1) and an exponent `e`, for the value `m · 2^e`; the numbers met
here lie far inside the range of normal doubles, so no subnormal or infinite case arises.
-/

namespace PeerBook.Binary64

/-- A positive double: `significand · 2 ^ exponent`, the significand of 53 bits. -/
structure Double where
  significand : Nat
  exponent : Int
  deriving DecidableEq, Repr

/-- `numerator / denominator` scaled by `2 ^ -shift`, as a fraction. -/
def scaled (numerator denominator : Nat) (shift : Int) : Nat × Nat :=
  if 0 ≤ shift then (numerator, denominator * Nat.pow 2 shift.toNat)
  else (numerator * Nat.pow 2 (-shift).toNat, denominator)

/-- The quotient of a fraction, rounded to the nearest integer, ties to even. -/
def roundHalfEven (numerator denominator : Nat) : Nat :=
  let quotient := numerator / denominator
  let twiceRemainder := 2 * (numerator % denominator)
  if denominator < twiceRemainder then quotient + 1
  else if twiceRemainder = denominator then quotient + quotient % 2
  else quotient

/-- The double nearest to `numerator / denominator`, both positive. -/
def ofFraction (numerator denominator : Nat) : Double :=
  -- the exponent that puts the quotient in [2^52, 2^53), found from the bit lengths
  let guess : Int := (Nat.log2 numerator : Int) - Nat.log2 denominator - 52
  let fits (shift : Int) : Bool :=
    let (top, bottom) := scaled numerator denominator shift
    Nat.pow 2 52 * bottom ≤ top && top < Nat.pow 2 53 * bottom
  let shift := if fits (guess - 1) then guess - 1 else if fits guess then guess else guess + 1
  let (top, bottom) := scaled numerator denominator shift
  let significand := roundHalfEven top bottom
  if significand = Nat.pow 2 53 then ⟨Nat.pow 2 52, shift + 1⟩ else ⟨significand, shift⟩

/-- The double nearest to a positive natural number. -/
def ofNat (value : Nat) : Double := ofFraction value 1

/-- The product of two doubles, rounded to the nearest double. -/
def mul (first second : Double) : Double :=
  let (top, bottom) := scaled (first.significand * second.significand) 1
    (-(first.exponent + second.exponent))
  ofFraction top bottom

/-- A double rounded toward zero to a natural number. -/
def truncate (value : Double) : Nat :=
  let (top, bottom) := scaled value.significand 1 (-value.exponent)
  top / bottom

end PeerBook.Binary64
