/-! Integers that fit into 64 bits. -/

namespace PayloadTemplate

/-- The number of values of a word: two to the power of 64. -/
def wordValues : Nat := 18446744073709551616

/-- Whether a natural number fits into a word. -/
def fitsWord (value : Nat) : Bool :=
  value < wordValues

/-- Whether an integer fits into a signed word, half of whose values lie below zero. -/
def fitsSignedWord (value : Int) : Bool :=
  -9223372036854775808 ≤ value && value < 9223372036854775808

end PayloadTemplate
