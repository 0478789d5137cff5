import PayloadTemplate.Pattern.Mode
import PayloadTemplate.Text.Hexadecimal

/-!
The smallest parts of a regular expression: characters, classes of characters and places between
characters, written as they are or with a backslash.
-/

namespace PayloadTemplate.Pattern

open Text

/-- A part that has no parts of its own. -/
inductive Atom where
  /-- A character; two digits in base sixteen name it by its byte. -/
  | literal (character : Char) (byByte : Bool)
  /-- Any character. -/
  | any
  /-- Digits, blanks or word characters, or all others. -/
  | shorthand (negated : Bool)
  /-- The characters of a general category, or all others. -/
  | category
  /-- The start or the end of a line or of the text. -/
  | edge
  /-- The start or the end of a word, or anywhere else. -/
  | wordEdge
  deriving DecidableEq, Repr

/-- Whether the code point of a character lies beyond ASCII. -/
def isWide (character : Char) : Bool :=
  Nat.ble 0x80 character.toNat

/-- Whether a mode allows an atom.  Among bytes nothing may match a part of a character, and words
have edges there only. -/
def Atom.isAllowed (mode : Mode) : Atom → Bool
  | .literal character byByte => mode.unicode || !(byByte && isWide character)
  | .any => mode.unicode
  | .shorthand negated => mode.unicode || !negated
  | .category => mode.unicode
  | .edge => true
  | .wordEdge => !mode.unicode

/-- Takes digits in base sixteen, with spacing before each. -/
def hexDigits? (mode : Mode) : Nat → List Char → Option (List Char × List Char)
  | 0, text => some ([], text)
  | count + 1, text =>
    match mode.skip text with
    | digit :: rest =>
      if (hexValue? digit).isSome then
        (hexDigits? mode count rest).map fun (digits, rest) => (digit :: digits, rest)
      else none
    | [] => none

/-- Takes the character that some digits in base sixteen name. -/
def numbered? (mode : Mode) (count : Nat) (byByte : Bool) (text : List Char) :
    Option (Atom × List Char) := do
  let (digits, rest) ← hexDigits? mode count text
  let character ← namedCharacter? digits
  some (.literal character byByte, rest)

/-- The letters of the general categories. -/
def categoryLetters : List Char := ['c', 'l', 'm', 'n', 'p', 's', 'z']

/-- Takes the letter of a general category, in any case. -/
def category? (mode : Mode) (text : List Char) : Option (Atom × List Char) :=
  match mode.skip text with
  | letter :: rest =>
    if categoryLetters.contains letter.toLower then some (.category, rest) else none
  | [] => none

/-- Whether a character loses its meaning behind a backslash: every one of ASCII that is neither a
letter nor a digit. -/
def isEscapable (character : Char) : Bool :=
  !isWide character && !character.isAlphanum

/-- Takes what stands behind a backslash. -/
def escape? (mode : Mode) : List Char → Option (Atom × List Char)
  | [] => none
  | letter :: rest =>
    match letter with
    | 'x' => numbered? mode 2 true rest
    | 'u' => numbered? mode 4 false rest
    | 'U' => numbered? mode 8 false rest
    | 'p' | 'P' => category? mode rest
    | 'd' | 's' | 'w' => some (.shorthand false, rest)
    | 'D' | 'S' | 'W' => some (.shorthand true, rest)
    | 'a' => some (.literal '\x07' false, rest)
    | 'f' => some (.literal '\x0c' false, rest)
    | 'n' => some (.literal '\n' false, rest)
    | 'r' => some (.literal '\r' false, rest)
    | 't' => some (.literal '\t' false, rest)
    | 'v' => some (.literal '\x0b' false, rest)
    | 'A' | 'z' => some (.edge, rest)
    | 'b' | 'B' | '<' | '>' => some (.wordEdge, rest)
    | _ => if isEscapable letter then some (.literal letter false, rest) else none

/-- Takes an atom outside brackets. -/
def atom? (mode : Mode) : List Char → Option (Atom × List Char)
  | [] => none
  | '\\' :: rest => escape? mode rest
  | '.' :: rest => some (.any, rest)
  | '^' :: rest => some (.edge, rest)
  | '$' :: rest => some (.edge, rest)
  | character :: rest => some (.literal character false, rest)

end PayloadTemplate.Pattern
