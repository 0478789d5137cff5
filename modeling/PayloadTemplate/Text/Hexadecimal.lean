/-! Numbers in base sixteen, and the characters that they name. -/

namespace PayloadTemplate.Text

/-- The value of a digit in base sixteen. -/
def hexValue? (character : Char) : Option Nat :=
  if character.isDigit then some (character.toNat - '0'.toNat)
  else if 'a' ≤ character ∧ character ≤ 'f' then some (character.toNat - 'a'.toNat + 10)
  else if 'A' ≤ character ∧ character ≤ 'F' then some (character.toNat - 'A'.toNat + 10)
  else none

/-- The character with a code point; surrogates are none. -/
def characterAt? (code : Nat) : Option Char :=
  if code < 0xD800 ∨ (0xE000 ≤ code ∧ code ≤ 0x10FFFF) then some (Char.ofNat code) else none

/-- The character that digits in base sixteen name, if there is one. -/
def namedCharacter? (digits : List Char) : Option Char := do
  let values ← digits.mapM hexValue?
  characterAt? (values.foldl (fun code value => code * 16 + value) 0)

end PayloadTemplate.Text
