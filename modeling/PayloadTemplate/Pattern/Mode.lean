import PayloadTemplate.Text.Blank

/-!
The mode in which a regular expression is read.  Settings in parentheses change it, for the rest of
a group or for a group of its own.
-/

namespace PayloadTemplate.Pattern

open Text

/-- How the text of a pattern is meant. -/
structure Mode where
  /-- Whether blanks and comments between the parts do not count. -/
  spaced : Bool
  /-- Whether characters are matched, and not single bytes. -/
  unicode : Bool
  deriving DecidableEq, Repr

/-- The mode in which a pattern begins. -/
def Mode.initial : Mode := ⟨false, true⟩

/-- The letters that stand for settings. -/
def settingLetters : List Char := ['i', 'm', 's', 'U', 'u', 'R', 'x']

/-- Whether a text consists of settings: letters, none of them twice, of which those behind a minus
are switched off.  There is one minus at most, and it does not come last. -/
def areSettings (text : List Char) : Bool :=
  text.all (fun letter => letter == '-' || settingLetters.contains letter) &&
    text.eraseDups.length == text.length && text.getLast? != some '-'

namespace Mode

/-- The mode after settings. -/
def change (mode : Mode) (settings : List Char) : Mode :=
  let on := settings.takeWhile (· != '-')
  let off := settings.dropWhile (· != '-')
  ⟨(mode.spaced || on.contains 'x') && !off.contains 'x',
    (mode.unicode || on.contains 'u') && !off.contains 'u'⟩

/-- The text without the blanks and comments at its start.  A comment reaches from a hash to the end
of the line. -/
def skipSpacing (inComment : Bool) : List Char → List Char
  | [] => []
  | character :: rest =>
    if inComment then skipSpacing (character != '\n') rest
    else if character == '#' then skipSpacing true rest
    else if isBlank character then skipSpacing false rest
    else character :: rest

/-- The text from the first character on that counts. -/
def skip (mode : Mode) (text : List Char) : List Char :=
  if mode.spaced then skipSpacing false text else text

/-- The next character behind blanks.  Of a comment only the hash is passed over. -/
def peek? (mode : Mode) (text : List Char) : Option Char :=
  if mode.spaced then
    match text.dropWhile isBlank with
    | '#' :: rest => (rest.dropWhile isBlank).head?
    | rest => rest.head?
  else text.head?

end Mode

end PayloadTemplate.Pattern
