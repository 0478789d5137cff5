/-! Sets of characters, written as ranges of code points. -/

namespace PayloadTemplate.Text

/-- A character belongs to a set of ranges when one of them, ends included, holds its code point. -/
def inRanges (ranges : List (Nat × Nat)) (character : Char) : Bool :=
  ranges.any fun range =>
    Nat.ble range.1 character.toNat && Nat.ble character.toNat range.2

end PayloadTemplate.Text
