import PayloadTemplate.Json.Fault
import PayloadTemplate.Value
import PayloadTemplate.Word

/-!
Reading numbers.  Digits are gathered in an integer of 64 bits; digits that no longer fit are
dropped and only move the decimal point.  The float is then reached by one multiplication with, or
division by, a power of ten, so it need not be the nearest to the digits.
-/

namespace PayloadTemplate.Json

open Decimal

/-- Gathered digits stay below this bound. -/
def significandBound : Nat := wordValues

/-- The value of a decimal digit. -/
def digitValue (digit : Char) : Nat :=
  digit.toNat - '0'.toNat

/-- Whether a text begins with a decimal digit. -/
def startsWithDigit : List Char → Bool
  | character :: _ => character.isDigit
  | [] => false

/-- Gathered digits: their value, how many there are, and the text after them. -/
structure Gathered where
  /-- The number that the digits make up. -/
  value : Nat
  /-- The number of digits. -/
  count : Nat
  /-- The text after them. -/
  rest : List Char

/-- Appends the digits at the start of a text to a number while the result stays below a bound. -/
def gather (bound value : Nat) : List Char → Gathered
  | [] => ⟨value, 0, []⟩
  | character :: rest =>
    let next := value * 10 + digitValue character
    if character.isDigit && Nat.blt next bound then
      let later := gather bound next rest
      ⟨later.value, later.count + 1, later.rest⟩
    else
      ⟨value, 0, character :: rest⟩

/-- A quotient of a gathered number by a power of ten above `10 ^ 308` is taken in two divisions;
beyond `10 ^ 616` nothing is left. -/
def scaledDown (value : Binary64) (power : Nat) : Option Binary64 :=
  if power ≤ 308 then
    Binary64.powerOfTen power >>= value.dividedBy
  else if power ≤ 616 then do
    let once ← Binary64.powerOfTen 308 >>= value.dividedBy
    Binary64.powerOfTen (power - 308) >>= once.dividedBy
  else
    some ⟨value.negative, 0, Binary64.minExponent⟩

/-- The product of a gathered number and a power of ten, if it is finite. -/
def scaledUp (value : Binary64) (power : Nat) : Option Binary64 :=
  if power ≤ 308 then Binary64.powerOfTen power >>= value.times
  else if value.isZero then some value
  else none

/-- The float for gathered digits and a decimal exponent, if it is finite. -/
def floatOf (negative : Bool) (significand : Nat) (exponent : Int) : Option Binary64 := do
  let value ← Binary64.ofNat significand
  let scaled ←
    if exponent < 0 then scaledDown value (-exponent).toNat else scaledUp value exponent.toNat
  return if negative then scaled.negated else scaled

/-- Completes a float; the fault stands where reading has arrived. -/
def finishFloat (negative : Bool) (significand : Nat) (exponent : Int) (rest : List Char) :
    Except Fault (Number × List Char) :=
  match floatOf negative significand exponent with
  | some value => .ok (.float value, rest)
  | none => .error (.before .numberOutOfRange rest)

/-- Exponents stay below this bound, two to the power of 31; a larger one makes the number zero or
too large. -/
def exponentBound : Nat := 2147483648

/-- Takes the sign of an exponent and tells whether it is negative. -/
def exponentSign : List Char → Bool × List Char
  | '+' :: rest => (false, rest)
  | '-' :: rest => (true, rest)
  | rest => (false, rest)

/-- Reads an exponent after its mark. -/
def readExponent (negative : Bool) (significand : Nat) (point : Int) (text : List Char) :
    Except Fault (Number × List Char) :=
  let (below, digits) := exponentSign text
  match digits with
  | [] => .error (.before .endInValue [])
  | first :: _ =>
    if !first.isDigit then
      .error (.at .invalidNumber digits)
    else
      let exponent := gather exponentBound 0 digits
      match exponent.rest with
      | next :: rest =>
        if next.isDigit then
          -- One more digit and the exponent leaves its range.
          if significand != 0 && !below then
            .error (.before .numberOutOfRange rest)
          else
            .ok (.float ⟨negative, 0, Binary64.minExponent⟩, rest.dropWhile Char.isDigit)
        else
          finishFloat negative significand
            (if below then point - exponent.value else point + exponent.value) exponent.rest
      | [] =>
        finishFloat negative significand
          (if below then point - exponent.value else point + exponent.value) []

/-- Reads what may follow the digits of a float: an exponent. -/
def readFloatEnd (negative : Bool) (significand : Nat) (point : Int) :
    List Char → Except Fault (Number × List Char)
  | 'e' :: rest | 'E' :: rest => readExponent negative significand point rest
  | rest => finishFloat negative significand point rest

/-- Reads a fraction after its point.  Digits that no longer fit are dropped. -/
def readFraction (negative : Bool) (significand : Nat) (point : Int) (text : List Char) :
    Except Fault (Number × List Char) :=
  let digits := gather significandBound significand text
  if startsWithDigit digits.rest then
    readFloatEnd negative digits.value (point - digits.count) (digits.rest.dropWhile Char.isDigit)
  else if digits.count = 0 then
    .error (if text.isEmpty then .before .endInValue [] else .at .invalidNumber text)
  else
    readFloatEnd negative digits.value (point - digits.count) digits.rest

/-- An integer without fraction and exponent: a minus makes a float of zero and of what no signed
integer of 64 bits can hold. -/
def integerNumber (negative : Bool) (value : Nat) (rest : List Char) :
    Except Fault (Number × List Char) :=
  if !negative then .ok (.integer value, rest)
  else if 0 < value && fitsSignedWord (-(value : Int)) then .ok (.integer (-(value : Int)), rest)
  else finishFloat true value 0 rest

/-- Reads what may follow the digits before the point. -/
def readIntegerEnd (negative : Bool) (value : Nat) : List Char → Except Fault (Number × List Char)
  | '.' :: rest => readFraction negative value 0 rest
  | 'e' :: rest | 'E' :: rest => readExponent negative value 0 rest
  | rest => integerNumber negative value rest

/-- Reads what may follow digits that went beyond 64 bits by a number of places. -/
def readLongIntegerEnd (negative : Bool) (value : Nat) (places : Nat) :
    List Char → Except Fault (Number × List Char)
  | '.' :: rest => readFraction negative value places rest
  | 'e' :: rest | 'E' :: rest => readExponent negative value places rest
  | rest => finishFloat negative value places rest

/-- Reads a number after its minus, if it has one. -/
def readNumeral (negative : Bool) : List Char → Except Fault (Number × List Char)
  | [] => .error (.before .endInValue [])
  | '0' :: rest =>
    -- A zero at the front stands alone.
    if startsWithDigit rest then .error (.at .invalidNumber rest)
    else readIntegerEnd negative 0 rest
  | first :: rest =>
    if !first.isDigit then
      .error (.at .invalidNumber (first :: rest))
    else
      let digits := gather significandBound (digitValue first) rest
      if startsWithDigit digits.rest then
        readLongIntegerEnd negative digits.value (digits.rest.takeWhile Char.isDigit).length
          (digits.rest.dropWhile Char.isDigit)
      else
        readIntegerEnd negative digits.value digits.rest

end PayloadTemplate.Json
