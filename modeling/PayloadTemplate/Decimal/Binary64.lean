/-!
Finite floating-point numbers of 64 bits, kept as an integer times a power of two.  Arithmetic is
exact and rounds once, to the nearest number and to an even integer on a tie.
-/

namespace PayloadTemplate.Decimal

/-- The number `±significand · 2 ^ exponent`; zero has a sign too. -/
structure Binary64 where
  /-- Whether the number lies below zero, or is the negative zero. -/
  negative : Bool
  /-- The integer part of the representation, below `2 ^ 53`. -/
  significand : Nat
  /-- The power of two, from -1074 to 971. -/
  exponent : Int
  deriving DecidableEq, Repr

namespace Binary64

/-- The smallest power of two. -/
def minExponent : Int := -1074

/-- The largest power of two. -/
def maxExponent : Int := 971

/-- The least significand of 53 bits: two to the power of 52. -/
def leastNormal : Nat := 4503599627370496

/-- A numerator and a denominator with the quotient `numerator / (denominator · 2 ^ exponent)`. -/
def scaled (numerator denominator : Nat) (exponent : Int) : Nat × Nat :=
  if exponent < 0 then
    (numerator * Nat.pow 2 (-exponent).toNat, denominator)
  else
    (numerator, denominator * Nat.pow 2 exponent.toNat)

/-- The integer nearest to a quotient, and the even one of two that are equally near. -/
def roundDiv (numerator denominator : Nat) : Nat :=
  let quotient := numerator / denominator
  let twice := 2 * (numerator % denominator)
  if twice < denominator || (twice == denominator && quotient % 2 == 0) then quotient
  else quotient + 1

/-- The power of two at which a positive quotient has an integer part of 53 bits. -/
def exponentOf (numerator denominator : Nat) : Int :=
  -- The binary logarithms tell the power up to one.
  let guess : Int := (Nat.log2 numerator : Int) - (Nat.log2 denominator : Int) - 52
  let parts := scaled numerator denominator guess
  if parts.1 / parts.2 < leastNormal then guess - 1 else guess

/-- The number nearest to a quotient, or nothing when that lies beyond the largest number. -/
def ofRatio (negative : Bool) (numerator denominator : Nat) : Option Binary64 :=
  if numerator = 0 then
    some ⟨negative, 0, minExponent⟩
  else
    let exponent := max (exponentOf numerator denominator) minExponent
    let parts := scaled numerator denominator exponent
    let significand := roundDiv parts.1 parts.2
    -- Rounding up may need one bit more.
    let rounded : Binary64 :=
      if significand = 2 * leastNormal then ⟨negative, leastNormal, exponent + 1⟩
      else ⟨negative, significand, exponent⟩
    if rounded.exponent > maxExponent then none else some rounded

/-- The number nearest to a natural number. -/
def ofNat (value : Nat) : Option Binary64 :=
  ofRatio false value 1

/-- The magnitude as a fraction. -/
def ratio (number : Binary64) : Nat × Nat :=
  if number.exponent < 0 then
    (number.significand, Nat.pow 2 (-number.exponent).toNat)
  else
    (number.significand * Nat.pow 2 number.exponent.toNat, 1)

/-- The number nearest to a product. -/
def times (left right : Binary64) : Option Binary64 :=
  ofRatio (left.negative != right.negative) (left.ratio.1 * right.ratio.1)
    (left.ratio.2 * right.ratio.2)

/-- The number nearest to a quotient by a number other than zero. -/
def dividedBy (left right : Binary64) : Option Binary64 :=
  ofRatio (left.negative != right.negative) (left.ratio.1 * right.ratio.2)
    (left.ratio.2 * right.ratio.1)

/-- The number nearest to a power of ten. -/
def powerOfTen (power : Nat) : Option Binary64 :=
  ofNat (Nat.pow 10 power)

/-- The same magnitude below zero. -/
def negated (number : Binary64) : Binary64 :=
  { number with negative := !number.negative }

/-- Both zeros are zero. -/
def isZero (number : Binary64) : Bool :=
  number.significand == 0

end Binary64

end PayloadTemplate.Decimal
