import PayloadTemplate.Decimal.Shortest

/-! How numbers are spelled in JSON text. -/

namespace PayloadTemplate.Json

open Decimal

/-- Where positional notation ends and what stands around the digits. -/
structure FloatLayout where
  /-- The smallest power of the first digit that is written positionally. -/
  smallestPlain : Int
  /-- The largest power of the first digit that is written positionally. -/
  largestPlain : Int
  /-- The mark between digits and exponent. -/
  mark : Char

/-- Numbers from `0.00001` up to below `10 ^ 16` are written positionally and always with a
fraction; an exponent carries its sign. -/
def floatLayout : FloatLayout := ⟨-5, 15, 'e'⟩

/-- Decimal digits of a natural number. -/
def naturalChars (value : Nat) : List Char :=
  Nat.toDigits 10 value

/-- An integer: its decimal digits, after a minus if it lies below zero. -/
def integerChars (value : Int) : List Char :=
  if value < 0 then '-' :: naturalChars value.natAbs else naturalChars value.natAbs

/-- Digits written positionally, with at least one digit on either side of the point. -/
def plainChars (digits : List Char) (exponent : Int) : List Char :=
  if exponent < 0 then
    ['0', '.'] ++ List.replicate ((-exponent).toNat - 1) '0' ++ digits
  else
    let whole := exponent.toNat + 1
    let fraction := digits.drop whole
    digits.take whole ++ List.replicate (whole - digits.length) '0' ++ ['.'] ++
      (if fraction.isEmpty then ['0'] else fraction)

/-- Digits with a point after the first, unless it stands alone, and an exponent. -/
def exponentChars (layout : FloatLayout) (digits : List Char) (exponent : Int) : List Char :=
  let fraction := digits.drop 1
  digits.take 1 ++ (if fraction.isEmpty then [] else '.' :: fraction) ++
    [layout.mark, if exponent < 0 then '-' else '+'] ++ naturalChars exponent.natAbs

/-- A floating-point number: its shortest digits under the layout. -/
def floatChars (layout : FloatLayout) (value : Binary64) : List Char :=
  let sign := if value.negative then ['-'] else []
  if value.isZero then
    sign ++ ['0', '.', '0']
  else
    let digits := shortest value
    if layout.smallestPlain ≤ digits.exponent ∧ digits.exponent ≤ layout.largestPlain then
      sign ++ plainChars digits.digits digits.exponent
    else
      sign ++ exponentChars layout digits.digits digits.exponent

end PayloadTemplate.Json
