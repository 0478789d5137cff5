import PayloadTemplate.Template.Lexer
import PayloadTemplate.Text.Slice

/-!
A scanner that is asked for one token after the other.  It remembers the byte position of its cursor
and the modes it has entered.
-/

namespace PayloadTemplate.Template

open Text

/-- A scanner of a source. -/
structure Scanner where
  /-- The source. -/
  source : String
  /-- The number of bytes in front of the cursor. -/
  cursor : Nat
  /-- The modes that have been entered, the current one first. -/
  modes : List Mode
  /-- Whether an illegal character has been met. -/
  failed : Bool
  deriving DecidableEq, Repr

/-- The modes after a token.  An expression enters a mode and leaves it at its end, but the first
mode is never left. -/
def modesAfter (modes : List Mode) : Token → List Mode
  | .exprStart => .expression :: modes
  | .exprEnd => if 1 < modes.length then modes.tail else modes
  | _ => modes

namespace Scanner

/-- What a scanner gives when it is asked: a token, an illegal character, or nothing. -/
abbrev Answer := Option (Except IllegalCharacter Token)

/-- A scanner in front of a source. -/
def start (source : String) : Scanner :=
  ⟨source, 0, [.literal], false⟩

/-- The current mode. -/
def mode (scanner : Scanner) : Mode :=
  scanner.modes.head?.getD .literal

/-- Moves the cursor over blanks. -/
def skip (scanner : Scanner) (blanks : List Char) : Scanner :=
  { scanner with cursor := scanner.cursor + byteCount blanks }

/-- Moves the cursor over a token, which may enter or leave a mode. -/
def pass (scanner : Scanner) (token : Token) : Scanner :=
  { scanner with
    cursor := scanner.cursor + byteCount token.lexeme
    modes := modesAfter scanner.modes token }

/-- Answers with what has been found at the cursor. -/
def answerTo (scanner : Scanner) : Step → Answer × Scanner
  | .token token _ => (some (.ok token), scanner.pass token)
  | .illegal (character :: _) =>
    (some (.error ⟨character, scanner.cursor⟩), { scanner with failed := true })
  | _ => (none, scanner)

/-- Looks for a token of literal text.  There is no text behind a cursor inside a character. -/
def nextLiteral? (scanner : Scanner) : Option (Answer × Scanner) := do
  let rest ← fromByte? scanner.cursor scanner.source.toList
  return scanner.answerTo (literalStep rest)

/-- Looks for a token of an expression at the cursor, where no space stands. -/
def nextWord? (scanner : Scanner) : Option (Answer × Scanner) := do
  let rest ← fromByte? scanner.cursor scanner.source.toList
  let before ← upToByte? scanner.cursor scanner.source.toList
  return scanner.answerTo (wordStep before.getLast? rest)

/-- Looks for a token of an expression behind all spaces at the cursor. -/
def nextSpaced? (scanner : Scanner) : Option (Answer × Scanner) := do
  let spaced ← fromByte? scanner.cursor scanner.source.toList
  (scanner.skip (spaced.takeWhile (· == ' '))).nextWord?

/-- Looks for a token under the rules of a mode. -/
def nextIn? : Mode → Scanner → Option (Answer × Scanner)
  | .literal, scanner => scanner.nextLiteral?
  | .expression, scanner => scanner.nextSpaced?

/-- Asks the scanner for its next token.  At the end of the source and after an illegal character
there are none. -/
def next? (scanner : Scanner) : Option (Answer × Scanner) :=
  if scanner.failed ∨ byteCount scanner.source.toList ≤ scanner.cursor then
    some (none, scanner)
  else
    nextIn? scanner.mode scanner

/-- Asks the scanner so many times. -/
def answers? : Nat → Scanner → Option (List Answer × Scanner)
  | 0, scanner => some ([], scanner)
  | count + 1, scanner => do
    let (answer, later) ← scanner.next?
    let (others, last) ← answers? count later
    return (answer :: others, last)

end Scanner

end PayloadTemplate.Template
