import PayloadTemplate.Template.Item
import PayloadTemplate.Template.Token

/-!
Building the items of a template from its tokens.  Blocks nest; every sequence of items, the root
and each body alike, holds at least one item.
-/

namespace PayloadTemplate.Template

/-- What the grammar asks for at some point of an expression. -/
inductive Expectation where
  /-- One particular token. -/
  | token (token : Token)
  /-- Any path. -/
  | path
  /-- The name of a loop index. -/
  | index
  deriving DecidableEq, Repr

/-- An expectation as error messages name it. -/
def Expectation.describe : Expectation → String
  | .token expected => expected.describe
  | .path => "a variable"
  | .index => "a loop index"

/-- Why a sequence of tokens is no template. -/
inductive ParseError where
  /-- Something else, or nothing, stands where the grammar asks for one thing. -/
  | expected (expectation : Expectation) (found : Option Token)
  /-- A word that closes or divides a block stands where no such block is open. -/
  | unexpectedCloser (word : Keyword)
  /-- A token of expressions stands in literal text. -/
  | outsideExpression (token : Token)
  /-- The tokens end inside a block. -/
  | unclosedBlock (closers : List Keyword)
  /-- A sequence of items is empty. -/
  | noItems
  /-- Nothing stands between the braces. -/
  | emptyExpression
  /-- An expression begins with a token that none begins with. -/
  | unexpectedInExpression (token : Token)
  /-- The tokens end at the start of an expression. -/
  | unterminatedExpression
  /-- A loop takes the index name of a loop around it. -/
  | indexInUse (name : Char)
  /-- An escape sequence is not one character after the escape sign. -/
  | malformedEscape (raw : String)
  /-- A fault that the caller describes. -/
  | reported (detail : String)
  deriving DecidableEq, Repr

/-- The fault in words. -/
def ParseError.detail : ParseError → String
  | .expected expectation (some token) =>
    s!"expected {expectation.describe}, found {token.describe}"
  | .expected expectation none => s!"expected {expectation.describe}, found end of input"
  | .unexpectedCloser word => s!"unexpected {(Token.keyword word).describe}"
  | .outsideExpression token => s!"unexpected {token.describe} outside an expression"
  | .unclosedBlock closers =>
    let names := closers.map fun word => (Token.keyword word).describe
    "unclosed block: expected " ++ " or ".intercalate names
  | .noItems => "expected at least one item"
  | .emptyExpression => "empty expression"
  | .unexpectedInExpression token => s!"unexpected {token.describe} in expression"
  | .unterminatedExpression => "unterminated expression"
  | .indexInUse name => s!"loop index '{name}' is already used by an enclosing loop"
  | .malformedEscape raw => s!"escaped character \"{raw}\" is invalid"
  | .reported detail => detail

/-- The fault as error messages report it. -/
def ParseError.message (fault : ParseError) : String :=
  "Parse error: " ++ fault.detail

/-- Takes one particular token. -/
def expectToken (expected : Token) : List Token → Except ParseError (List Token)
  | token :: rest =>
    if token = expected then .ok rest else .error (.expected (.token expected) (some token))
  | [] => .error (.expected (.token expected) none)

/-- Takes a path. -/
def expectPath : List Token → Except ParseError (String × List Token)
  | .path spelling :: rest => .ok (spelling, rest)
  | token :: _ => .error (.expected .path (some token))
  | [] => .error (.expected .path none)

/-- Takes the name of a loop index that no enclosing loop uses. -/
def expectIndex (enclosing : List Char) : List Token → Except ParseError (Char × List Token)
  | .index name :: rest =>
    if name ∈ enclosing then .error (.indexInUse name) else .ok (name, rest)
  | token :: _ => .error (.expected .index (some token))
  | [] => .error (.expected .index none)

/-- Takes a path and the brace that ends the expression. -/
def expectPathEnd (tokens : List Token) : Except ParseError (String × List Token) := do
  let (path, rest) ← expectPath tokens
  let rest ← expectToken .exprEnd rest
  return (path, rest)

/-- Takes an expression that consists of one keyword. -/
def expectCloser (word : Keyword) (tokens : List Token) : Except ParseError (List Token) := do
  let rest ← expectToken .exprStart tokens
  let rest ← expectToken (.keyword word) rest
  expectToken .exprEnd rest

/-- The character that an escape sequence stands for: the one after the escape sign. -/
def escapedChar (raw : String) : Except ParseError Char :=
  match raw.toList with
  | [_, character] => .ok character
  | _ => .error (.malformedEscape raw)

/-- The characters of the text tokens at the start, and the tokens after them. -/
def textRun : List Token → List Char × List Token
  | .text character :: rest =>
    let run := textRun rest
    (character :: run.1, run.2)
  | tokens => ([], tokens)

/-- The words that close or divide a block. -/
def Keyword.closesBlock : Keyword → Bool
  | .elseWord | .endIfWord | .endForWord => true
  | _ => false

/-- Accepts the items of a body once they are complete: one of the closers follows, if there are
any, and the body is not empty. -/
def completeBody (closers : List Keyword) (body : List Item × List Token) :
    Except ParseError (List Item × List Token) :=
  if body.2.isEmpty && !closers.isEmpty then
    .error (.unclosedBlock closers)
  else if body.1.isEmpty then
    .error .noItems
  else
    .ok body

mutual

/-- The items up to the end of the tokens or to an expression that opens with a closer.  The first
argument bounds the number of items and blocks read. -/
def readItems (steps : Nat) (closers : List Keyword) (enclosing : List Char)
    (tokens : List Token) : Except ParseError (List Item × List Token) :=
  match steps with
  | 0 => .error .noItems
  | steps + 1 =>
    match tokens with
    | [] => .ok ([], [])
    | .text character :: rest => do
      -- Neighbouring characters make up one text.
      let run := textRun rest
      let (items, after) ← readItems steps closers enclosing run.2
      return (.text (String.ofList (character :: run.1)) :: items, after)
    | .escaped raw :: rest => do
      let character ← escapedChar raw
      let (items, after) ← readItems steps closers enclosing rest
      return (.escaped character :: items, after)
    | .shortcut path :: rest => do
      let (items, after) ← readItems steps closers enclosing rest
      return (.reference path :: items, after)
    | .exprStart :: .keyword word :: rest =>
      if word ∈ closers then
        .ok ([], .exprStart :: .keyword word :: rest)
      else if word.closesBlock then
        .error (.unexpectedCloser word)
      else do
        let (item, after) ← readExpression steps enclosing (.keyword word :: rest)
        let (items, after) ← readItems steps closers enclosing after
        return (item :: items, after)
    | .exprStart :: rest => do
      let (item, after) ← readExpression steps enclosing rest
      let (items, after) ← readItems steps closers enclosing after
      return (item :: items, after)
    | token :: _ => .error (.outsideExpression token)

/-- The item of an expression whose opening has been taken, with its whole block if it has one. -/
def readExpression (steps : Nat) (enclosing : List Char) (tokens : List Token) :
    Except ParseError (Item × List Token) :=
  match steps with
  | 0 => .error .noItems
  | steps + 1 =>
    match tokens with
    | .path path :: rest => do
      let rest ← expectToken .exprEnd rest
      return (.reference path, rest)
    | .keyword .ifWord :: .keyword .notWord :: rest => do
      let (condition, rest) ← expectPathEnd rest
      let (body, rest) ← readItems steps [.endIfWord] enclosing rest >>= completeBody [.endIfWord]
      let rest ← expectCloser .endIfWord rest
      return (.whenFalse condition body, rest)
    | .keyword .ifWord :: rest => do
      let (condition, rest) ← expectPathEnd rest
      let closers := [.elseWord, .endIfWord]
      let (accepted, rest) ← readItems steps closers enclosing rest >>= completeBody closers
      if rest[1]? = some (.keyword .elseWord) then
        let rest ← expectCloser .elseWord rest
        let (refused, rest) ←
          readItems steps [.endIfWord] enclosing rest >>= completeBody [.endIfWord]
        let rest ← expectCloser .endIfWord rest
        return (.choice condition accepted refused, rest)
      else
        let rest ← expectCloser .endIfWord rest
        return (.whenTrue condition accepted, rest)
    | .keyword .forWord :: rest => do
      let (index, rest) ← expectIndex enclosing rest
      let rest ← expectToken (.keyword .inWord) rest
      let (source, rest) ← expectPathEnd rest
      let (body, rest) ←
        readItems steps [.endForWord] (index :: enclosing) rest >>= completeBody [.endForWord]
      let rest ← expectCloser .endForWord rest
      return (.loop index source body, rest)
    | .exprEnd :: _ => .error .emptyExpression
    | token :: _ => .error (.unexpectedInExpression token)
    | [] => .error .unterminatedExpression

end

/-- The items of a template.  Every step takes a token, so their number bounds the steps. -/
def parse (tokens : List Token) : Except ParseError (List Item) := do
  let (items, _) ← readItems (tokens.length + 1) [] [] tokens >>= completeBody []
  return items

end PayloadTemplate.Template
