import PayloadTemplate.Json.Numeral
import PayloadTemplate.Json.StringLiteral

/-! Reading JSON text. -/

namespace PayloadTemplate.Json

/-- The characters that may stand between the parts of a text. -/
def isSpacing (character : Char) : Bool :=
  character == ' ' || character == '\n' || character == '\t' || character == '\r'

/-- The text without the spacing at its start. -/
def skipSpacing (text : List Char) : List Char :=
  text.dropWhile isSpacing

/-- Takes the characters of a word. -/
def readWord : List Char → List Char → Except Fault (List Char)
  | [], rest => .ok rest
  | _ :: _, [] => .error (.before .endInValue [])
  | expected :: word, character :: rest =>
    if character = expected then readWord word rest
    else .error (.at .expectedWord (character :: rest))

/-- Takes the colon after a key. -/
def readColon (text : List Char) : Except Fault (List Char) :=
  match skipSpacing text with
  | [] => .error (.before .endInObject [])
  | ':' :: rest => .ok rest
  | rest => .error (.at .expectedColon rest)

/-- Sequences and maps may be nested this deep. -/
def nestingLimit : Nat := 127

/-- What follows a member of a sequence. -/
inductive ListNext where
  /-- Another member, at the start of the text. -/
  | member (text : List Char)
  /-- The sequence has ended. -/
  | finished (rest : List Char)

/-- Looks for the first member of a sequence. -/
def firstMember (text : List Char) : Except Fault ListNext :=
  match skipSpacing text with
  | [] => .error (.before .endInList [])
  | ']' :: rest => .ok (.finished rest)
  | rest => .ok (.member rest)

/-- Looks for a further member of a sequence. -/
def nextMember (text : List Char) : Except Fault ListNext :=
  match skipSpacing text with
  | [] => .error (.before .endInList [])
  | ']' :: rest => .ok (.finished rest)
  | ',' :: rest =>
    match skipSpacing rest with
    | [] => .error (.before .endInValue [])
    | ']' :: rest => .error (.at .trailingComma (']' :: rest))
    | rest => .ok (.member rest)
  | rest => .error (.at .expectedListCommaOrEnd rest)

/-- What follows a member of a map. -/
inductive ObjectNext where
  /-- Another key, whose opening quote has been taken. -/
  | key (text : List Char)
  /-- The map has ended. -/
  | finished (rest : List Char)

/-- Looks for the first key of a map. -/
def firstKey (text : List Char) : Except Fault ObjectNext :=
  match skipSpacing text with
  | [] => .error (.before .endInObject [])
  | '}' :: rest => .ok (.finished rest)
  | '"' :: rest => .ok (.key rest)
  | rest => .error (.at .keyMustBeString rest)

/-- Looks for a further key of a map. -/
def nextKey (text : List Char) : Except Fault ObjectNext :=
  match skipSpacing text with
  | [] => .error (.before .endInObject [])
  | '}' :: rest => .ok (.finished rest)
  | ',' :: rest =>
    match skipSpacing rest with
    | [] => .error (.before .endInValue [])
    | '"' :: rest => .ok (.key rest)
    | '}' :: rest => .error (.at .trailingComma ('}' :: rest))
    | rest => .error (.at .keyMustBeString rest)
  | rest => .error (.at .expectedObjectCommaOrEnd rest)

mutual

/-- Reads a value.  The first number bounds the characters that are left to read, the second the
levels of nesting that are left to enter. -/
def readValue (rules : Rules) (steps depth : Nat) (text : List Char) :
    Except Fault (Value × List Char) :=
  match steps with
  | 0 => .error (.before .endInValue text)
  | steps + 1 =>
    match skipSpacing text with
    | [] => .error (.before .endInValue [])
    | 'n' :: rest => return (.null, ← readWord ['u', 'l', 'l'] rest)
    | 't' :: rest => return (.bool true, ← readWord ['r', 'u', 'e'] rest)
    | 'f' :: rest => return (.bool false, ← readWord ['a', 'l', 's', 'e'] rest)
    | '"' :: rest => do
      let (content, rest) ← readString rules rest
      return (.string content, rest)
    | '-' :: rest => do
      let (number, rest) ← readNumeral true rest
      return (.number number, rest)
    | '[' :: rest =>
      match depth with
      | 0 => .error (.at .nestedTooDeeply ('[' :: rest))
      | depth + 1 => do
        let (items, rest) ← firstMember rest >>= readItems rules steps depth
        return (.sequence items, rest)
    | '{' :: rest =>
      match depth with
      | 0 => .error (.at .nestedTooDeeply ('{' :: rest))
      | depth + 1 => do
        let (bindings, rest) ← firstKey rest >>= readBindings rules steps depth
        return (.ofBindings bindings, rest)
    | first :: rest =>
      if first.isDigit then do
        let (number, rest) ← readNumeral false (first :: rest)
        return (.number number, rest)
      else
        .error (.at .expectedValue (first :: rest))

/-- Reads the members of a sequence from the given one on. -/
def readItems (rules : Rules) (steps depth : Nat) (next : ListNext) :
    Except Fault (List Value × List Char) :=
  match steps, next with
  | _, .finished rest => .ok ([], rest)
  | 0, .member text => .error (.before .endInList text)
  | steps + 1, .member text => do
    let (item, rest) ← readValue rules steps depth text
    let (items, rest) ← nextMember rest >>= readItems rules steps depth
    return (item :: items, rest)

/-- Reads the bindings of a map from the given key on. -/
def readBindings (rules : Rules) (steps depth : Nat) (next : ObjectNext) :
    Except Fault (List (String × Value) × List Char) :=
  match steps, next with
  | _, .finished rest => .ok ([], rest)
  | 0, .key text => .error (.before .endInObject text)
  | steps + 1, .key text => do
    let (key, rest) ← readString rules text
    let rest ← readColon rest
    let (value, rest) ← readValue rules steps depth rest
    let (bindings, rest) ← nextKey rest >>= readBindings rules steps depth
    return ((key, value) :: bindings, rest)

end

/-- Accepts what was read if only spacing follows. -/
def requireEnd {α : Type} (result : α × List Char) : Except Fault α :=
  match skipSpacing result.2 with
  | [] => .ok result.1
  | rest => .error (.at .trailingCharacters rest)

/-- Reads a whole text that holds one value.  Each step of reading takes a character or ends a
value, so twice the length bounds the steps. -/
def readWhole (rules : Rules) (text : List Char) : Except Fault Value :=
  readValue rules (2 * text.length + 1) nestingLimit text >>= requireEnd

/-- The value that a JSON text stands for. -/
def read (text : String) : Except Error Value :=
  (readWhole .strict text.toList).mapError (·.locate text.toList)

end PayloadTemplate.Json
