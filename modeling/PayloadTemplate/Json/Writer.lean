import PayloadTemplate.Json.Layout
import PayloadTemplate.Value

/-! Writing values as JSON text. -/

namespace PayloadTemplate.Json

/-- What stands between the parts of a text and which characters its strings may hold. -/
structure Style where
  /-- Separates the members of a sequence or map. -/
  comma : List Char
  /-- Separates a key from its value. -/
  colon : List Char
  /-- Whether characters beyond ASCII are escaped. -/
  asciiOnly : Bool

/-- No blanks, and every printable character as it is. -/
def Style.compact : Style := ⟨[','], [':'], false⟩

/-- A blank after each separator, and ASCII alone. -/
def Style.spacedAscii : Style := ⟨[',', ' '], [':', ' '], true⟩

/-- The digit of a number below sixteen. -/
def hexDigit (value : Nat) : Char :=
  Nat.digitChar value

/-- An escape with the four digits of a 16-bit unit. -/
def unitEscape (unit : Nat) : List Char :=
  ['\\', 'u', hexDigit (unit / 4096 % 16), hexDigit (unit / 256 % 16), hexDigit (unit / 16 % 16),
    hexDigit (unit % 16)]

/-- The 16-bit units of a character: two surrogates beyond the first plane, otherwise one. -/
def utf16Units (character : Char) : List Nat :=
  let code := character.toNat
  if code < 0x10000 then [code]
  else [0xD800 + (code - 0x10000) / 0x400, 0xDC00 + (code - 0x10000) % 0x400]

/-- The letter of a short escape. -/
def shortEscape? : Char → Option Char
  | '"' => some '"'
  | '\\' => some '\\'
  | '\x08' => some 'b'
  | '\t' => some 't'
  | '\n' => some 'n'
  | '\x0c' => some 'f'
  | '\r' => some 'r'
  | _ => none

/-- One character inside a string. -/
def stringChar (style : Style) (character : Char) : List Char :=
  match shortEscape? character with
  | some letter => ['\\', letter]
  | none =>
    if character.toNat < 0x20 then unitEscape character.toNat
    else if style.asciiOnly && Nat.ble 0x80 character.toNat then
      (utf16Units character).flatMap unitEscape
    else [character]

/-- A string between its quotes. -/
def stringChars (style : Style) (text : String) : List Char :=
  '"' :: text.toList.flatMap (stringChar style) ++ ['"']

/-- A number. -/
def numberChars : Number → List Char
  | .integer value => integerChars value
  | .float value => floatChars floatLayout value

mutual

/-- A value as JSON text. -/
def valueChars (style : Style) : Value → List Char
  | .null => ['n', 'u', 'l', 'l']
  | .bool true => ['t', 'r', 'u', 'e']
  | .bool false => ['f', 'a', 'l', 's', 'e']
  | .number value => numberChars value
  | .string value => stringChars style value
  | .sequence items => '[' :: itemsChars style items
  | .map entries => '{' :: entriesChars style entries

/-- The items of a sequence after its opening bracket. -/
def itemsChars (style : Style) : List Value → List Char
  | [] => [']']
  | item :: rest => valueChars style item ++ moreItemsChars style rest

/-- The items after the first. -/
def moreItemsChars (style : Style) : List Value → List Char
  | [] => [']']
  | item :: rest => style.comma ++ valueChars style item ++ moreItemsChars style rest

/-- The members of a map after its opening brace. -/
def entriesChars (style : Style) : List (String × Value) → List Char
  | [] => ['}']
  | (key, value) :: rest =>
    stringChars style key ++ style.colon ++ valueChars style value ++ moreEntriesChars style rest

/-- The members after the first. -/
def moreEntriesChars (style : Style) : List (String × Value) → List Char
  | [] => ['}']
  | (key, value) :: rest =>
    style.comma ++ stringChars style key ++ style.colon ++ valueChars style value ++
      moreEntriesChars style rest

end

/-- A value as JSON text in the given style. -/
def write (style : Style) (value : Value) : String :=
  String.ofList (valueChars style value)

end PayloadTemplate.Json

namespace PayloadTemplate

/-- The text that a value contributes to a rendered template: nothing for null, a string as it is,
and JSON text for all else. -/
def Value.text : Value → String
  | .null => ""
  | .string value => value
  | value => Json.write .spacedAscii value

end PayloadTemplate
