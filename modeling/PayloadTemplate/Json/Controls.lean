import PayloadTemplate.Json.Writer

/-!
Escaping the control characters inside the strings of a text that is about to be read as JSON, so
that values of several lines can be put between quotes.
-/

namespace PayloadTemplate.Json

/-- Where in a text the scanner stands. -/
inductive Region where
  /-- Outside all strings. -/
  | outside
  /-- Inside a string. -/
  | inside
  /-- Inside a string, directly after a backslash that starts an escape. -/
  | escaping
  deriving DecidableEq, Repr

/-- Where the scanner stands after a character. -/
def Region.after : Region → Char → Region
  | .outside, character => if character = '"' then .inside else .outside
  | .inside, character =>
    if character = '\\' then .escaping else if character = '"' then .outside else .inside
  | .escaping, _ => .inside

/-- The escape sequence of a control character: its short one, if it has any. -/
def controlEscape (character : Char) : List Char :=
  match shortEscape? character with
  | some letter => ['\\', letter]
  | none => unitEscape character.toNat

/-- Escapes each control character inside a string unless a backslash stands before it. -/
def escapeFrom (region : Region) : List Char → List Char
  | [] => []
  | character :: rest =>
    if region = .inside ∧ character.toNat < 0x20 then
      controlEscape character ++ escapeFrom .inside rest
    else
      character :: escapeFrom (region.after character) rest

/-- Whether a character is a control character of ASCII or of the block after it. -/
def isControl (character : Char) : Bool :=
  Nat.blt character.toNat 0x20 || (Nat.ble 0x7F character.toNat && Nat.ble character.toNat 0x9F)

/-- Escapes the control characters inside the strings of a text.  A text without control characters
needs no scan. -/
def escapeControls (text : String) : String :=
  if text.toList.any isControl then String.ofList (escapeFrom .outside text.toList) else text

end PayloadTemplate.Json
