/-! Reading integers from decimal digits. -/

namespace PayloadTemplate.Text

/-- The number that decimal digits make up: at least one digit, and nothing else. -/
def natural? (digits : List Char) : Option Nat :=
  if !digits.isEmpty && digits.all Char.isDigit then
    some (digits.foldl (fun value digit => value * 10 + (digit.toNat - '0'.toNat)) 0)
  else
    none

/-- The natural number that a text spells, with or without a plus. -/
def unsigned? : List Char → Option Nat
  | '+' :: digits => natural? digits
  | digits => natural? digits

/-- The integer that a text spells, with or without a sign. -/
def signed? : List Char → Option Int
  | '-' :: digits => (natural? digits).map fun value => -(value : Int)
  | digits => (unsigned? digits).map fun value => (value : Int)

end PayloadTemplate.Text
