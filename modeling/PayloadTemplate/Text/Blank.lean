import PayloadTemplate.Text.CodeRange

/-! Blank characters, and texts without the blanks around them. -/

namespace PayloadTemplate.Text

/-- Code points with the Unicode property White_Space. -/
def blankRanges : List (Nat × Nat) :=
  [(0x0009, 0x000D), (0x0020, 0x0020), (0x0085, 0x0085), (0x00A0, 0x00A0), (0x1680, 0x1680),
    (0x2000, 0x200A), (0x2028, 0x2029), (0x202F, 0x202F), (0x205F, 0x205F), (0x3000, 0x3000)]

/-- A blank character leaves no ink: spaces, tabs and line ends of any script. -/
def isBlank (character : Char) : Bool :=
  inRanges blankRanges character

/-- The characters from the first that is not blank to the last that is not. -/
def trimmedChars (characters : List Char) : List Char :=
  ((characters.dropWhile isBlank).reverse.dropWhile isBlank).reverse

/-- The text without the blanks at its two ends. -/
def trimmed (text : String) : String :=
  String.ofList (trimmedChars text.toList)

end PayloadTemplate.Text
