/-! The tokens of a template and how each is spelled in its source. -/

namespace PayloadTemplate.Template

/-- The words with a meaning inside an expression. -/
inductive Keyword where
  /-- Opens a conditional block. -/
  | ifWord
  /-- Negates the condition that follows. -/
  | notWord
  /-- Separates the two branches of a conditional block. -/
  | elseWord
  /-- Closes a conditional block. -/
  | endIfWord
  /-- Opens a loop. -/
  | forWord
  /-- Stands between a loop index and what the loop ranges over. -/
  | inWord
  /-- Closes a loop. -/
  | endForWord
  deriving DecidableEq, Repr

/-- The characters of a keyword. -/
def Keyword.word : Keyword → List Char
  | .ifWord => ['i', 'f']
  | .notWord => ['n', 'o', 't']
  | .elseWord => ['e', 'l', 's', 'e']
  | .endIfWord => ['e', 'n', 'd', 'i', 'f']
  | .forWord => ['f', 'o', 'r']
  | .inWord => ['i', 'n']
  | .endForWord => ['e', 'n', 'd', 'f', 'o', 'r']

/-- One unit of a template's source. -/
inductive Token where
  /-- A character that stands for itself. -/
  | text (character : Char)
  /-- An escape sequence, kept as it was written. -/
  | escaped (raw : String)
  /-- A path outside an expression, without the dollar sign in front of it. -/
  | shortcut (spelling : String)
  /-- A dollar sign and an opening brace. -/
  | exprStart
  /-- The brace that closes an expression. -/
  | exprEnd
  /-- A dotted path inside an expression. -/
  | path (spelling : String)
  /-- A keyword inside an expression. -/
  | keyword (word : Keyword)
  /-- The one-character name of a loop index. -/
  | index (name : Char)
  deriving DecidableEq, Repr

/-- The characters that spell a token. -/
def Token.lexeme : Token → List Char
  | .text character => [character]
  | .escaped raw => raw.toList
  | .shortcut spelling => '$' :: spelling.toList
  | .exprStart => ['$', '{']
  | .exprEnd => ['}']
  | .path spelling => spelling.toList
  | .keyword word => word.word
  | .index name => [name]

/-- A token as error messages name it. -/
def Token.describe : Token → String
  | .text character => s!"text '{character}'"
  | .escaped raw => s!"escape '{raw}'"
  | .shortcut spelling => s!"'${spelling}'"
  | .exprStart => "'$\x7b'"
  | .exprEnd => "'\x7d'"
  | .path spelling => s!"variable '{spelling}'"
  | .keyword word => s!"'{String.ofList word.word}'"
  | .index name => s!"index variable '{name}'"

end PayloadTemplate.Template
