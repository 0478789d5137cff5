import PayloadTemplate.Text.Alphabetic
import PayloadTemplate.Text.CodeRange
import PayloadTemplate.Text.Mark
import PayloadTemplate.Text.Newcomer
import PayloadTemplate.Text.Numeral

/-! Word characters: what names, path segments and loop indices are made of. -/

namespace PayloadTemplate.Text

/-- Code points of the category Connector_Punctuation. -/
def connectorRanges : List (Nat × Nat) :=
  [(0x005F, 0x005F), (0x203F, 0x2040), (0x2054, 0x2054), (0xFE33, 0xFE34), (0xFE4D, 0xFE4F),
    (0xFF3F, 0xFF3F)]

/-- The zero-width non-joiner and joiner, which shape the letters around them. -/
def joinControlRanges : List (Nat × Nat) := [(0x200C, 0x200D)]

/-- A word character is a letter, a mark, a decimal digit, a connector or a join control, and none
of the newcomers: names mean the same before and after the standard grows. -/
def isWordChar (character : Char) : Bool :=
  -- ASCII is answered without the tables.
  character.isAlphanum || character == '_' ||
    (Nat.ble 0x80 character.toNat && !inRanges newcomerRanges character &&
      (inRanges alphabeticRanges character || inRanges markRanges character ||
        inRanges decimalDigitRanges character || inRanges connectorRanges character ||
        inRanges joinControlRanges character))

/-- A segment of a dotted path consists of word characters and hyphens. -/
def isSegmentChar (character : Char) : Bool :=
  isWordChar character || character == '-'

/-- A letter of any script. -/
def isAlphabetic (character : Char) : Bool :=
  character.isAlpha || (Nat.ble 0x80 character.toNat && inRanges alphabeticRanges character)

/-- A letter or a number character of any script. -/
def isAlphanumeric (character : Char) : Bool :=
  character.isAlphanum ||
    (Nat.ble 0x80 character.toNat &&
      (inRanges alphabeticRanges character || inRanges decimalDigitRanges character ||
        inRanges otherNumeralRanges character))

end PayloadTemplate.Text
