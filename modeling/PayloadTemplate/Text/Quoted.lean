import PayloadTemplate.Text.CodeRange
import PayloadTemplate.Text.Printable

/-! Texts between double quotes, as error messages show them: what cannot be seen is escaped. -/

namespace PayloadTemplate.Text

/-- The digits of a number in base sixteen, in lower case and without leading zeros. -/
def hexDigits (number : Nat) : List Char :=
  Nat.toDigits 16 number

/-- The letters that stand for a missing part of a Hangul syllable and leave no ink. -/
def hangulFillerRanges : List (Nat × Nat) :=
  [(0x115F, 0x1160), (0x3164, 0x3164), (0xFFA0, 0xFFA0)]

/-- The halfwidth voicing marks of Katakana.  They extend the letter before them, but in a place of
their own, so they can be seen anywhere. -/
def halfwidthVoicingRanges : List (Nat × Nat) := [(0xFF9E, 0xFF9F)]

/-- Whether a character shows nothing, or nothing of its own. -/
def isHidden (character : Char) : Bool :=
  inRanges unprintableRanges character || inRanges hangulFillerRanges character ||
    (inRanges graphemeExtendRanges character && !inRanges halfwidthVoicingRanges character)

/-- One character of a quoted text. -/
def quotedChar (character : Char) : List Char :=
  match character with
  | '\x00' => ['\\', '0']
  | '\t' => ['\\', 't']
  | '\r' => ['\\', 'r']
  | '\n' => ['\\', 'n']
  | '"' => ['\\', '"']
  | '\\' => ['\\', '\\']
  | _ =>
    if isHidden character then
      ['\\', 'u', '\x7b'] ++ hexDigits character.toNat ++ ['\x7d']
    else
      [character]

/-- The text between double quotes. -/
def quoted (text : String) : String :=
  String.ofList ('"' :: text.toList.flatMap quotedChar ++ ['"'])

end PayloadTemplate.Text
