import PayloadTemplate.Decimal.Binary64

/-!
The fewest decimal digits that read back as a given floating-point number, and among those the
digits nearest to it.
-/

namespace PayloadTemplate.Decimal

/-- Decimal digits with a point after the first, times a power of ten. -/
structure Scientific where
  /-- The digits, most significant first. -/
  digits : List Char
  /-- The power of ten that belongs to the first digit. -/
  exponent : Int
  deriving DecidableEq, Repr

/-- The fraction `10 ^ power`. -/
def tenTo (power : Int) : Nat × Nat :=
  if power < 0 then (1, Nat.pow 10 (-power).toNat) else (Nat.pow 10 power.toNat, 1)

/-- Whether a power of ten does not exceed a fraction. -/
def tenToAtMost (power : Int) (fraction : Nat × Nat) : Bool :=
  (tenTo power).1 * fraction.2 ≤ fraction.1 * (tenTo power).2

/-- The power of ten that belongs to the first digit of a positive number. -/
def firstDigitPower (number : Binary64) : Int :=
  -- A binary logarithm tells the decimal one up to one.
  let guess := (((Nat.log2 number.significand : Int) + number.exponent) * 30103) / 100000
  if !tenToAtMost guess number.ratio then guess - 1
  else if tenToAtMost (guess + 1) number.ratio then guess + 1
  else guess

/-- The numbers that round to a given one, in quarters of its last binary place. -/
structure Interval where
  /-- The lower end. -/
  low : Nat
  /-- The number itself. -/
  middle : Nat
  /-- The upper end. -/
  high : Nat
  /-- Whether the ends themselves round to the number. -/
  closed : Bool

/-- Half a place on each side, or a quarter below a power of two; an even integer takes the ends. -/
def Interval.around (number : Binary64) : Interval :=
  let middle := 4 * number.significand
  let narrow := number.significand == Binary64.leastNormal &&
    decide (Binary64.minExponent < number.exponent)
  ⟨if narrow then middle - 1 else middle - 2, middle, middle + 2, number.significand % 2 == 0⟩

/-- The multiple of a power of ten that rounds to the number, if there is one: of two, the nearer,
and the even one of two that are equally near. -/
def gridPoint? (number : Binary64) (power : Int) : Option Nat :=
  let interval := Interval.around number
  -- One quarter of a binary place is `quarter / unit` of the power of ten.
  let place := Binary64.scaled 1 1 (2 - number.exponent)
  let quarter := place.1 * (tenTo power).2
  let unit := place.2 * (tenTo power).1
  let inside (point : Nat) : Bool :=
    let position := point * unit
    let low := interval.low * quarter
    let high := interval.high * quarter
    if interval.closed then low ≤ position && position ≤ high
    else low < position && position < high
  let exact := interval.middle * quarter
  let below := exact / unit
  let above := below + 1
  let gapBelow := exact - below * unit
  let gapAbove := above * unit - exact
  match inside below, inside above with
  | true, true =>
    if gapBelow < gapAbove || (gapBelow == gapAbove && below % 2 == 0) then some below
    else some above
  | true, false => some below
  | false, true => some above
  | false, false => none

/-- Digits without the zeros at their end, but never without any digit. -/
def withoutFinalZeros (digits : List Char) : List Char :=
  match (digits.reverse.dropWhile (· == '0')).reverse with
  | [] => ['0']
  | kept => kept

/-- The shortest digits of a number other than zero.  Seventeen always suffice. -/
def shortest (number : Binary64) : Scientific :=
  let first := firstDigitPower number
  let found := (List.range 17).findSome? fun (extra : Nat) =>
    let power := first - (extra : Int)
    (gridPoint? number power).map fun point => (point, power)
  let (point, power) := found.getD (0, 0)
  let digits := Nat.toDigits 10 point
  ⟨withoutFinalZeros digits, power + digits.length - 1⟩

end PayloadTemplate.Decimal
