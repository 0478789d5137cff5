import PayloadTemplate.Decimal.Binary64
import PayloadTemplate.Toml.Lexeme
import PayloadTemplate.Word

/-! Numbers, dates and times in TOML text. -/

namespace PayloadTemplate.Toml

open Decimal Text

/-- The values of keys.  Settings need three kinds; others are only recognised. -/
inductive Value where
  /-- A text. -/
  | string (value : String)
  /-- An integer of 64 bits with a sign. -/
  | integer (value : Int)
  /-- A truth value. -/
  | boolean (value : Bool)
  /-- A float, a date, a time, an array or an inline table. -/
  | other
  deriving DecidableEq, Repr

/-- Takes further digits, of which an underscore may separate any two. -/
def moreDigits? (isDigit : Char → Bool) : List Char → Option (List Char × List Char)
  | [] => some ([], [])
  | '_' :: digit :: rest => do
    if isDigit digit then
      let (digits, rest) ← moreDigits? isDigit rest
      some (digit :: digits, rest)
    else
      none
  | character :: rest => do
    if character = '_' then
      none
    else if isDigit character then
      let (digits, rest) ← moreDigits? isDigit rest
      some (character :: digits, rest)
    else
      some ([], character :: rest)

/-- Takes digits, at least one. -/
def digits? (isDigit : Char → Bool) : List Char → Option (List Char × List Char)
  | first :: rest => do
    if isDigit first then
      let (digits, rest) ← moreDigits? isDigit rest
      some (first :: digits, rest)
    else
      none
  | [] => none

/-- The number that digits make up in some base. -/
def digitsValue (base : Nat) (digits : List Char) : Nat :=
  digits.foldl (fun value digit => value * base + (hexValue? digit).getD 0) 0

/-- Takes a sign, if there is one, and tells whether it is a minus. -/
def sign : List Char → Bool × List Char
  | '-' :: rest => (true, rest)
  | '+' :: rest => (false, rest)
  | rest => (false, rest)

/-- Takes the digits of a decimal integer, which begin with no zero unless there is no other. -/
def wholeDigits? : List Char → Option (List Char × List Char)
  | '0' :: rest => some (['0'], rest)
  | rest => digits? Char.isDigit rest

/-- Takes an integer of another base than ten after the mark of its base. -/
def basedInteger? (base : Nat) (isDigit : Char → Bool) (text : List Char) :
    Option (Value × List Char) := do
  let (digits, rest) ← digits? isDigit text
  let value : Int := digitsValue base digits
  if fitsSignedWord value then some (.integer value, rest) else none

/-- Takes an integer. -/
def integer? : List Char → Option (Value × List Char)
  | '0' :: 'x' :: rest => basedInteger? 16 (fun digit => (hexValue? digit).isSome) rest
  | '0' :: 'o' :: rest => basedInteger? 8 (fun digit => '0' ≤ digit && digit ≤ '7') rest
  | '0' :: 'b' :: rest => basedInteger? 2 (fun digit => digit == '0' || digit == '1') rest
  | text => do
    let (negative, rest) := sign text
    let (digits, rest) ← wholeDigits? rest
    let magnitude : Int := digitsValue 10 digits
    let value := if negative then -magnitude else magnitude
    if fitsSignedWord value then some (.integer value, rest) else none

/-- Takes an exponent with its mark, if there is one. -/
def exponent? : List Char → Option (Int × List Char)
  | 'e' :: rest | 'E' :: rest => do
    let (negative, rest) := sign rest
    let (digits, rest) ← digits? Char.isDigit rest
    let magnitude : Int := digitsValue 10 digits
    some (if negative then -magnitude else magnitude, rest)
  | rest => some (0, rest)

/-- Whether digits times a power of ten lie beyond the floats of 64 bits. -/
def exceedsFloats (digits : List Char) (power : Int) : Bool :=
  let value := digitsValue 10 digits
  let places := (Nat.toDigits 10 value).length + power
  if value == 0 || places < 300 then false
  else if 320 < places then true
  else if power < 0 then (Binary64.ofRatio false value (Nat.pow 10 (-power).toNat)).isNone
  else (Binary64.ofNat (value * Nat.pow 10 power.toNat)).isNone

/-- Accepts a float unless it lies above all floats of 64 bits. -/
def finishFloat? (negative : Bool) (digits : List Char) (power : Int) (rest : List Char) :
    Option (Value × List Char) :=
  if !negative && exceedsFloats digits power then none else some (.other, rest)

/-- Takes a float: a number with a fraction or an exponent, or one of the words for no number. -/
def float? (text : List Char) : Option (Value × List Char) :=
  let (negative, rest) := sign text
  match rest with
  | 'i' :: 'n' :: 'f' :: rest => some (.other, rest)
  | 'n' :: 'a' :: 'n' :: rest => some (.other, rest)
  | _ => do
    let (whole, rest) ← wholeDigits? rest
    match rest with
    | '.' :: rest =>
      let (fraction, rest) ← digits? Char.isDigit rest
      let (power, rest) ← exponent? rest
      finishFloat? negative (whole ++ fraction) (power - fraction.length) rest
    | 'e' :: _ | 'E' :: _ =>
      let (power, rest) ← exponent? rest
      finishFloat? negative whole power rest
    | _ => none

/-- Takes the given number of digits that make up a number in a range. -/
def field? (count low high : Nat) (text : List Char) : Option (Nat × List Char) :=
  let digits := text.take count
  let value := digitsValue 10 digits
  if digits.length == count && digits.all Char.isDigit && low ≤ value && value ≤ high then
    some (value, text.drop count)
  else
    none

/-- Takes one particular character. -/
def char? (expected : Char) : List Char → Option (List Char)
  | character :: rest => if character = expected then some rest else none
  | [] => none

/-- The number of days of a month. -/
def daysIn (year month : Nat) : Nat :=
  match month with
  | 2 => if year % 4 == 0 && (year % 100 != 0 || year % 400 == 0) then 29 else 28
  | 4 | 6 | 9 | 11 => 30
  | _ => 31

/-- Takes a date. -/
def date? (text : List Char) : Option (List Char) := do
  let (year, rest) ← field? 4 0 9999 text
  let rest ← char? '-' rest
  let (month, rest) ← field? 2 1 12 rest
  let rest ← char? '-' rest
  let (_, rest) ← field? 2 1 (daysIn year month) rest
  some rest

/-- The text without the fraction of a second at its start. -/
def skipFraction : List Char → List Char
  | '.' :: digit :: rest =>
    if digit.isDigit then rest.dropWhile Char.isDigit else '.' :: digit :: rest
  | rest => rest

/-- Takes a time of day. -/
def time? (text : List Char) : Option (List Char) := do
  let (_, rest) ← field? 2 0 23 text
  let rest ← char? ':' rest
  let (_, rest) ← field? 2 0 59 rest
  let rest ← char? ':' rest
  let (_, rest) ← field? 2 0 60 rest
  some (skipFraction rest)

/-- Takes a distance from universal time, if there is one.  A sign without one is a fault. -/
def offset? : List Char → Option (List Char)
  | 'Z' :: rest | 'z' :: rest => some rest
  | '+' :: rest | '-' :: rest => do
    let (_, rest) ← field? 2 0 23 rest
    let rest ← char? ':' rest
    let (_, rest) ← field? 2 0 59 rest
    some rest
  | rest => some rest

/-- Takes a date, a time of day, or both with or without a distance from universal time. -/
def moment? (text : List Char) : Option (Value × List Char) :=
  match date? text with
  | some rest =>
    let dayTime? : Option (List Char) :=
      match rest with
      | 'T' :: rest | 't' :: rest | ' ' :: rest => time? rest
      | _ => none
    match dayTime? with
    | some rest => (offset? rest).map fun rest => (.other, rest)
    | none => some (.other, rest)
  | none => (time? text).map fun rest => (.other, rest)

/-- Takes a number, a date or a time. -/
def numeral? (text : List Char) : Option (Value × List Char) :=
  moment? text <|> float? text <|> integer? text

end PayloadTemplate.Toml
