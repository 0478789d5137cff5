import PayloadTemplate.Text.Hexadecimal

/-! The smallest parts of TOML text: blanks, comments, line ends, keys and strings. -/

namespace PayloadTemplate.Toml

open Text

/-- The characters that separate parts of a line. -/
def isLineBlank (character : Char) : Bool :=
  character == ' ' || character == '\t'

/-- The text without the blanks at its start. -/
def skipBlanks (text : List Char) : List Char :=
  text.dropWhile isLineBlank

/-- Characters that may stand in a comment: the tab and all that are no ASCII controls. -/
def isCommentChar (character : Char) : Bool :=
  character == '\t' || (Nat.ble 0x20 character.toNat && character.toNat != 0x7F)

/-- The text without the comment at its start. -/
def skipComment : List Char → List Char
  | '#' :: rest => rest.dropWhile isCommentChar
  | text => text

/-- Takes a line end. -/
def newline? : List Char → Option (List Char)
  | '\n' :: rest => some rest
  | '\r' :: '\n' :: rest => some rest
  | _ => none

/-- Takes what may stand behind the last part of a line, and the line's end or the text's. -/
def lineEnd? (text : List Char) : Option (List Char) :=
  match skipComment (skipBlanks text) with
  | [] => some []
  | rest => newline? rest

/-- Takes the given number of digits in base sixteen and gives the character they name. -/
def codeEscape? (count : Nat) (text : List Char) : Option (Char × List Char) := do
  let digits := text.take count
  if digits.length < count then
    none
  else
    let character ← namedCharacter? digits
    some (character, text.drop count)

/-- Takes an escape sequence after its backslash. -/
def escape? : List Char → Option (Char × List Char)
  | 'b' :: rest => some ('\x08', rest)
  | 't' :: rest => some ('\t', rest)
  | 'n' :: rest => some ('\n', rest)
  | 'f' :: rest => some ('\x0c', rest)
  | 'r' :: rest => some ('\r', rest)
  | '"' :: rest => some ('"', rest)
  | '\\' :: rest => some ('\\', rest)
  | 'u' :: rest => codeEscape? 4 rest
  | 'U' :: rest => codeEscape? 8 rest
  | _ => none

/-- Takes the rest of a string in double quotes.  The number bounds the characters left. -/
def basicString? (steps : Nat) (text : List Char) : Option (List Char × List Char) :=
  match steps, text with
  | 0, _ | _, [] => none
  | _ + 1, '"' :: rest => some ([], rest)
  | steps + 1, '\\' :: rest => do
    let (character, rest) ← escape? rest
    let (later, rest) ← basicString? steps rest
    some (character :: later, rest)
  | steps + 1, character :: rest => do
    if isCommentChar character then
      let (later, rest) ← basicString? steps rest
      some (character :: later, rest)
    else
      none

/-- Takes the rest of a string in single quotes, which knows no escapes. -/
def literalString? : List Char → Option (List Char × List Char)
  | [] => none
  | '\'' :: rest => some ([], rest)
  | character :: rest => do
    if isCommentChar character then
      let (later, rest) ← literalString? rest
      some (character :: later, rest)
    else
      none

/-- What a run of quotes means inside a string of several lines. -/
inductive QuoteRun where
  /-- The quotes belong to the string. -/
  | content (count : Nat)
  /-- The quotes end the string; so many before the last three belong to it. -/
  | closing (count : Nat)

/-- The meaning of a run of quotes: three end the string, and up to two before them belong to it. -/
def QuoteRun.ofLength (length : Nat) : QuoteRun :=
  if length < 3 then .content length else .closing (min (length - 3) 2)

/-- The quotes at the start of a text. -/
def quoteCount (quote : Char) (text : List Char) : Nat :=
  (text.takeWhile (· == quote)).length

/-- Takes the blank end of a line whose last character is a backslash, and all blanks and line ends
after it. -/
def continuation? (text : List Char) : Option (List Char) := do
  let rest ← newline? (skipBlanks text)
  some (dropSpace rest)
where
  /-- The text from the first character on that is neither blank nor line end. -/
  dropSpace : List Char → List Char
    | ' ' :: rest | '\t' :: rest | '\n' :: rest => dropSpace rest
    | '\r' :: '\n' :: rest => dropSpace rest
    | rest => rest

/-- Takes the rest of a string of several lines.  Line ends in it read as one character.  The number
bounds the characters left. -/
def longString? (quote : Char) (escapes : Bool) (steps : Nat) (text : List Char) :
    Option (List Char × List Char) :=
  match steps, text with
  | 0, _ | _, [] => none
  | steps + 1, character :: rest =>
    if character = quote then
      match QuoteRun.ofLength (quoteCount quote text) with
      | .closing count => some (List.replicate count quote, text.drop (count + 3))
      | .content count => do
        let (later, rest) ← longString? quote escapes steps (text.drop count)
        some (List.replicate count quote ++ later, rest)
    else if escapes && character == '\\' then
      match continuation? rest with
      | some rest => longString? quote escapes steps rest
      | none => do
        let (character, rest) ← escape? rest
        let (later, rest) ← longString? quote escapes steps rest
        some (character :: later, rest)
    else
      match newline? text with
      | some rest => do
        let (later, rest) ← longString? quote escapes steps rest
        some ('\n' :: later, rest)
      | none => do
        if isCommentChar character then
          let (later, rest) ← longString? quote escapes steps rest
          some (character :: later, rest)
        else
          none

/-- Takes a string of several lines after its opening quotes.  A line end directly after them does
not count. -/
def longStringBody? (quote : Char) (escapes : Bool) (text : List Char) :
    Option (List Char × List Char) :=
  let body := (newline? text).getD text
  longString? quote escapes (body.length + 1) body

/-- Takes a string. -/
def string? : List Char → Option (String × List Char)
  | '"' :: '"' :: '"' :: rest => (longStringBody? '"' true rest).map fun (content, rest) =>
    (String.ofList content, rest)
  | '"' :: rest => (basicString? (rest.length + 1) rest).map fun (content, rest) =>
    (String.ofList content, rest)
  | '\'' :: '\'' :: '\'' :: rest => (longStringBody? '\'' false rest).map fun (content, rest) =>
    (String.ofList content, rest)
  | '\'' :: rest => (literalString? rest).map fun (content, rest) =>
    (String.ofList content, rest)
  | _ => none

/-- The characters of a key without quotes. -/
def isBareKeyChar (character : Char) : Bool :=
  character.isAlphanum || character == '_' || character == '-'

/-- Takes one part of a key. -/
def keyPart? : List Char → Option (String × List Char)
  | '"' :: rest => (basicString? (rest.length + 1) rest).map fun (content, rest) =>
    (String.ofList content, rest)
  | '\'' :: rest => (literalString? rest).map fun (content, rest) =>
    (String.ofList content, rest)
  | text =>
    let part := text.takeWhile isBareKeyChar
    if part.isEmpty then none else some (String.ofList part, text.dropWhile isBareKeyChar)

/-- Takes the parts of a key, with blanks around them.  The number bounds the characters left. -/
def keyParts? (steps : Nat) (text : List Char) : Option (List String × List Char) :=
  match steps with
  | 0 => none
  | steps + 1 => do
    let (part, rest) ← keyPart? (skipBlanks text)
    match skipBlanks rest with
    | '.' :: rest =>
      let (parts, rest) ← keyParts? steps rest
      some (part :: parts, rest)
    | rest => some ([part], rest)

/-- Keys have fewer parts than this. -/
def keyPartLimit : Nat := 80

/-- A key: the parts that lead to a table, and the part that names something in it. -/
structure Key where
  /-- The way to the table. -/
  path : List String
  /-- The name in the table. -/
  name : String

/-- Takes a key. -/
def key? (text : List Char) : Option (Key × List Char) := do
  let (parts, rest) ← keyParts? (text.length + 1) text
  if parts.length < keyPartLimit then
    match parts.reverse with
    | name :: path => some (⟨path.reverse, name⟩, rest)
    | [] => none
  else
    none

end PayloadTemplate.Toml
