import PayloadTemplate.Toml.Table

/-! Reading TOML text. -/

namespace PayloadTemplate.Toml

/-- The text without blanks, comments and line ends at its start.  The number bounds the characters
left. -/
def skipVoid : Nat → List Char → List Char
  | 0, text => text
  | steps + 1, text =>
    match skipComment (skipBlanks text) with
    | '\n' :: rest => skipVoid steps rest
    | '\r' :: '\n' :: rest => skipVoid steps rest
    | rest => rest

/-- Takes one particular word. -/
def word? (word : List Char) (value : Value) (text : List Char) : Option (Value × List Char) :=
  if word.isPrefixOf text then some (value, text.drop word.length) else none

/-- Arrays and inline tables may be nested this deep. -/
def nestingLimit : Nat := 79

mutual

/-- Takes a value.  The first number bounds the characters left, the second the levels of nesting
left. -/
def value? (steps depth : Nat) (text : List Char) : Option (Value × List Char) :=
  match steps with
  | 0 => none
  | steps + 1 =>
    match text with
    | '"' :: _ | '\'' :: _ => (string? text).map fun (content, rest) => (.string content, rest)
    | 't' :: _ => word? ['t', 'r', 'u', 'e'] (.boolean true) text
    | 'f' :: _ => word? ['f', 'a', 'l', 's', 'e'] (.boolean false) text
    | 'i' :: _ | 'n' :: _ => float? text
    | '[' :: rest =>
      match depth with
      | 0 => none
      | depth + 1 => (arrayEnd? steps depth rest).map fun rest => (.other, rest)
    | '{' :: rest =>
      match depth with
      | 0 => none
      | depth + 1 =>
        match skipBlanks rest with
        | '}' :: rest => some (.other, rest)
        | rest => (inlineEnd? steps depth .fresh rest).map fun rest => (.other, rest)
    | _ => numeral? text

/-- Takes the members of an array and its end. -/
def arrayEnd? (steps depth : Nat) (text : List Char) : Option (List Char) :=
  match steps with
  | 0 => none
  | steps + 1 =>
    match skipVoid text.length text with
    | ']' :: rest => some rest
    | text => do
      let (_, rest) ← value? steps depth text
      match skipVoid rest.length rest with
      | ']' :: rest => some rest
      | ',' :: rest => arrayEnd? steps depth rest
      | _ => none

/-- Takes the bindings of an inline table, at least one, and its end. -/
def inlineEnd? (steps depth : Nat) (table : Table) (text : List Char) : Option (List Char) :=
  match steps with
  | 0 => none
  | steps + 1 => do
    let (key, rest) ← key? text
    let rest ← char? '=' rest
    let (value, rest) ← value? steps depth (skipBlanks rest)
    let table ← table.bind key value
    match skipBlanks rest with
    | '}' :: rest => some rest
    | ',' :: rest => inlineEnd? steps depth table rest
    | _ => none

end

/-- Takes a key and its value up to the end of the line. -/
def binding? (document : Document) (text : List Char) : Option (Document × List Char) := do
  let (key, rest) ← key? text
  let rest ← char? '=' rest
  let rest := skipBlanks rest
  let (value, rest) ← value? (2 * rest.length + 1) nestingLimit rest
  let rest ← lineEnd? rest
  some (← document.bind key value, rest)

/-- Takes the header of a table after its opening bracket, up to the end of the line. -/
def header? (document : Document) : List Char → Option (Document × List Char)
  | '[' :: rest => do
    let (key, rest) ← key? rest
    let rest ← char? ']' rest
    let rest ← char? ']' rest
    let rest ← lineEnd? rest
    some (← document.openMember key, rest)
  | rest => do
    let (key, rest) ← key? rest
    let rest ← char? ']' rest
    let rest ← lineEnd? rest
    some (← document.openTable key, rest)

/-- Takes line after line.  The number bounds the characters left. -/
def lines? (steps : Nat) (document : Document) (text : List Char) : Option Table :=
  match steps with
  | 0 => none
  | steps + 1 =>
    match skipBlanks text with
    | [] => document.complete
    | '#' :: rest => do lines? steps document (← lineEnd? ('#' :: rest))
    | '\n' :: rest => lines? steps document rest
    | '\r' :: '\n' :: rest => lines? steps document rest
    | '[' :: rest => do
      let (document, rest) ← header? document rest
      lines? steps document rest
    | rest => do
      let (document, rest) ← binding? document rest
      lines? steps document rest

/-- The root table of a TOML text, if the text is well formed.  A byte order mark may stand at its
start. -/
def read? (text : String) : Option Table :=
  let content :=
    match text.toList with
    | '\uFEFF' :: rest => rest
    | rest => rest
  lines? (content.length + 1) .start content

end PayloadTemplate.Toml
