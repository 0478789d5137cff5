import PayloadTemplate.Json.Layout
import PayloadTemplate.Text.Quoted
import PayloadTemplate.Text.Width

/-! What can be wrong with JSON text, and where. -/

namespace PayloadTemplate.Json

open Decimal Text

/-- The outer shape of a value, as far as error messages show it. -/
inductive Shape where
  /-- No value. -/
  | null
  /-- A truth value. -/
  | boolean (value : Bool)
  /-- An integer. -/
  | integer (value : Int)
  /-- A floating-point number. -/
  | float (value : Binary64)
  /-- A text. -/
  | string (value : String)
  /-- A sequence of whatever. -/
  | sequence
  /-- A map of whatever. -/
  | map
  deriving DecidableEq, Repr

/-- A shape as error messages name it. -/
def Shape.describe : Shape → String
  | .null => "null"
  | .boolean value => s!"boolean `{value}`"
  | .integer value => s!"integer `{String.ofList (integerChars value)}`"
  | .float value => s!"floating point `{String.ofList (floatChars floatLayout value)}`"
  | .string value => s!"string {quoted value}"
  | .sequence => "sequence"
  | .map => "map"

/-- The shapes that a reader may ask for. -/
inductive Demand where
  /-- A truth value. -/
  | boolean
  /-- A text. -/
  | string
  /-- A natural number of 64 bits. -/
  | depth
  /-- An object of settings. -/
  | settings
  deriving DecidableEq, Repr

/-- A demand as error messages name it. -/
def Demand.describe : Demand → String
  | .boolean => "a boolean"
  | .string => "a string"
  | .depth => "usize"
  | .settings => "struct Settings"

/-- What is wrong. -/
inductive Cause where
  /-- The text ends where a value is due or inside one. -/
  | endInValue
  /-- The text ends inside a sequence. -/
  | endInList
  /-- The text ends inside a map. -/
  | endInObject
  /-- The text ends inside a string. -/
  | endInString
  /-- No value begins like this. -/
  | expectedValue
  /-- A word begins like a literal and goes on differently. -/
  | expectedWord
  /-- A colon is due. -/
  | expectedColon
  /-- A comma or the end of the sequence is due. -/
  | expectedListCommaOrEnd
  /-- A comma or the end of the map is due. -/
  | expectedObjectCommaOrEnd
  /-- A comma stands before the end. -/
  | trailingComma
  /-- Something follows the value. -/
  | trailingCharacters
  /-- A key is no string. -/
  | keyMustBeString
  /-- A number is malformed. -/
  | invalidNumber
  /-- A number is too large. -/
  | numberOutOfRange
  /-- An escape sequence is malformed. -/
  | invalidEscape
  /-- One half of a surrogate pair stands without the other. -/
  | loneSurrogate
  /-- Nothing that could be the second half follows the first half of a surrogate pair. -/
  | unfinishedSurrogatePair
  /-- A control character stands in a string. -/
  | controlCharacter
  /-- Sequences and maps are nested too deeply. -/
  | nestedTooDeeply
  /-- A value has another shape than the one that is due. -/
  | mismatch (found : Shape) (due : Demand)
  /-- An integer lies outside the range that is due. -/
  | outsideRange (value : Int) (due : Demand)
  /-- A field is given twice. -/
  | duplicateField (name : String)
  deriving DecidableEq, Repr

/-- The cause in words. -/
def Cause.describe : Cause → String
  | .endInValue => "EOF while parsing a value"
  | .endInList => "EOF while parsing a list"
  | .endInObject => "EOF while parsing an object"
  | .endInString => "EOF while parsing a string"
  | .expectedValue => "expected value"
  | .expectedWord => "expected ident"
  | .expectedColon => "expected `:`"
  | .expectedListCommaOrEnd => "expected `,` or `]`"
  | .expectedObjectCommaOrEnd => "expected `,` or `\x7d`"
  | .trailingComma => "trailing comma"
  | .trailingCharacters => "trailing characters"
  | .keyMustBeString => "key must be a string"
  | .invalidNumber => "invalid number"
  | .numberOutOfRange => "number out of range"
  | .invalidEscape => "invalid escape"
  | .loneSurrogate => "lone leading surrogate in hex escape"
  | .unfinishedSurrogatePair => "unexpected end of hex escape"
  | .controlCharacter => "control character (\\u0000-\\u001F) found while parsing a string"
  | .nestedTooDeeply => "recursion limit exceeded"
  | .mismatch found due => s!"invalid type: {found.describe}, expected {due.describe}"
  | .outsideRange value due =>
    s!"invalid value: {(Shape.integer value).describe}, expected {due.describe}"
  | .duplicateField name => s!"duplicate field `{name}`"

/-- A fault while reading: its cause, and how many bytes of the text had not been reached. -/
structure Fault where
  /-- What is wrong. -/
  cause : Cause
  /-- The number of bytes behind the place of the fault. -/
  unread : Nat
  deriving DecidableEq, Repr

/-- A fault between what was read and what is left. -/
def Fault.before (cause : Cause) (rest : List Char) : Fault :=
  ⟨cause, byteCount rest⟩

/-- A fault at the first byte of what is left, or at the end when nothing is. -/
def Fault.at (cause : Cause) (rest : List Char) : Fault :=
  ⟨cause, byteCount rest - 1⟩

/-- A fault with the line and column of the last byte reached, both counted in bytes from one. -/
structure Error where
  /-- What is wrong. -/
  cause : Cause
  /-- The line, counted from one. -/
  line : Nat
  /-- The number of bytes reached in that line. -/
  column : Nat
  deriving DecidableEq, Repr

/-- The error as messages report it. -/
def Error.message (error : Error) : String :=
  s!"{error.cause.describe} at line {error.line} column {error.column}"

/-- The line and column after a number of bytes, starting from a given line and column. -/
def positionAfter (line column : Nat) : Nat → List Char → Nat × Nat
  | 0, _ => (line, column)
  | bytes + 1, [] => (line, column + (bytes + 1))
  | bytes + 1, character :: rest =>
    if character = '\n' then
      positionAfter (line + 1) 0 bytes rest
    else
      let width := min character.utf8Size (bytes + 1)
      positionAfter line (column + width) (bytes + 1 - width) rest
termination_by _ text => text.length

/-- Locates a fault in the text that was being read. -/
def Fault.locate (text : List Char) (fault : Fault) : Error :=
  let position := positionAfter 1 0 (byteCount text - fault.unread) text
  ⟨fault.cause, position.1, position.2⟩

end PayloadTemplate.Json
