import PayloadTemplate.Template.Token
import PayloadTemplate.Text.Width
import PayloadTemplate.Text.WordChar

/-!
Splitting a template's source into tokens.  Literal text and expressions are scanned by different
rules; an opening brace after a dollar sign enters an expression and a closing brace leaves it.
-/

namespace PayloadTemplate.Template

open Text

/-- Which rules apply at the cursor. -/
inductive Mode where
  /-- Text that stands for itself, escapes and shortcut paths. -/
  | literal
  /-- The inside of an expression. -/
  | expression
  deriving DecidableEq, Repr

/-- A token may change the rules for what follows it. -/
def Mode.after (mode : Mode) : Token → Mode
  | .exprStart => .expression
  | .exprEnd => .literal
  | _ => mode

/-- The words that a path may begin with. -/
def pathRoots : List (List Char) :=
  [['d', 'a', 't', 'a'], ['c', 'o', 'n', 'f', 'i', 'g'], ['e', 'n', 'v'], ['k', 'e', 'y']]

/-- Whether the text begins with a character of a path segment. -/
def startsSegment : List Char → Bool
  | character :: _ => isSegmentChar character
  | [] => false

/-- The longest run of segment characters and of dots that a segment follows. -/
def segmentRun : List Char → List Char
  | [] => []
  | character :: rest =>
    if isSegmentChar character || (character == '.' && startsSegment rest) then
      character :: segmentRun rest
    else
      []

/-- The dotted segments at the start of a text, which has to begin with a dot to have any. -/
def dottedSegments : List Char → List Char
  | '.' :: rest => segmentRun ('.' :: rest)
  | _ => []

/-- The longest path at the start of a text: a root and its dotted segments. -/
def path? (text : List Char) : Option (List Char) :=
  (pathRoots.find? (·.isPrefixOf text)).map fun root =>
    root ++ dottedSegments (text.drop root.length)

/-- The keywords in the order they are tried: a word comes before its own beginnings. -/
def keywords : List Keyword :=
  [.endForWord, .endIfWord, .elseWord, .forWord, .notWord, .ifWord, .inWord]

/-- Whether a character, if there is one, is a word character. -/
def isWordAt : Option Char → Bool
  | some character => isWordChar character
  | none => false

/-- A word character with no word character on either side. -/
def isLoneWordChar (previous : Option Char) (character : Char) (next : Option Char) : Bool :=
  isWordChar character && !isWordAt previous && !isWordAt next

/-- What scanning finds at the cursor. -/
inductive Step where
  /-- Nothing is left. -/
  | finished
  /-- A token and the text after it. -/
  | token (token : Token) (rest : List Char)
  /-- The text begins with a character that no rule allows. -/
  | illegal (rest : List Char)

/-- The next token of literal text, which allows every character. -/
def literalStep : List Char → Step
  | [] => .finished
  | '$' :: '{' :: rest => .token .exprStart rest
  | '\\' :: '$' :: rest => .token (.escaped "\\$") rest
  | '$' :: rest =>
    match path? rest with
    | some path => .token (.shortcut (String.ofList path)) (rest.drop path.length)
    | none => .token (.text '$') rest
  | character :: rest => .token (.text character) rest

/-- The next token of an expression whose text begins with no space. -/
def wordStep (previous : Option Char) : List Char → Step
  | [] => .finished
  | character :: rest =>
    if character = '}' then
      .token .exprEnd rest
    else
      match path? (character :: rest) with
      | some path => .token (.path (String.ofList path)) ((character :: rest).drop path.length)
      | none =>
        if isLoneWordChar previous character rest.head? then
          .token (.index character) rest
        else
          match keywords.find? (·.word.isPrefixOf (character :: rest)) with
          | some word => .token (.keyword word) ((character :: rest).drop word.word.length)
          | none => .illegal (character :: rest)

/-- Expressions skip spaces, and only those, before each token. -/
def expressionStep (previous : Option Char) : List Char → Step
  | ' ' :: rest => expressionStep (some ' ') rest
  | text => wordStep previous text

/-- The next step under the rules of a mode, knowing the character before the cursor. -/
def step : Mode → Option Char → List Char → Step
  | .literal, _, text => literalStep text
  | .expression, previous, text => expressionStep previous text

/-- A path at the start of a text is not empty. -/
theorem path?_length_pos {text path : List Char} (found : path? text = some path) :
    0 < path.length := by
  -- A path begins with its root, and no root is empty.
  simp only [path?, Option.map_eq_some_iff] at found
  obtain ⟨root, chosen, rfl⟩ := found
  have member := List.mem_of_find?_eq_some chosen
  have nonempty : ∀ root ∈ pathRoots, 0 < root.length := by decide
  have := nonempty root member
  simp only [List.length_append]
  omega

/-- A token of literal text leaves less to scan. -/
theorem literalStep_shorter {text rest : List Char} {token : Token}
    (found : literalStep text = .token token rest) : rest.length < text.length := by
  -- Each rule takes at least the first character.
  unfold literalStep at found
  split at found
  · cases found
  · cases found; simp only [List.length_cons]; omega
  · cases found; simp only [List.length_cons]; omega
  · split at found <;> cases found <;> simp only [List.length_cons, List.length_drop] <;> omega
  · cases found; simp

/-- A token of an expression leaves less to scan. -/
theorem wordStep_shorter {previous : Option Char} {text rest : List Char} {token : Token}
    (found : wordStep previous text = .token token rest) : rest.length < text.length := by
  -- A brace and an index take one character; a path and a keyword are not empty.
  unfold wordStep at found
  split at found
  · cases found
  · split at found
    · cases found; simp
    · split at found
      · rename_i path located
        have := path?_length_pos located
        cases found
        simp only [List.length_cons, List.length_drop]
        omega
      · split at found
        · cases found; simp
        · split at found
          · rename_i word _
            have : 0 < word.word.length := by cases word <;> decide
            cases found
            simp only [List.length_cons, List.length_drop]
            omega
          · cases found

/-- Skipping spaces first does not change that a token leaves less to scan. -/
theorem expressionStep_shorter {previous : Option Char} {text rest : List Char} {token : Token}
    (found : expressionStep previous text = .token token rest) : rest.length < text.length := by
  -- Each skipped space only shortens the text further.
  fun_induction expressionStep previous text with
  | case1 _ tail ih =>
    have := ih found
    simp only [List.length_cons]
    omega
  | case2 _ text _ => exact wordStep_shorter found

/-- Every token takes at least one character. -/
theorem step_shorter {mode : Mode} {previous : Option Char} {text rest : List Char}
    {token : Token} (found : step mode previous text = .token token rest) :
    rest.length < text.length := by
  -- Both modes keep the promise.
  cases mode with
  | literal => exact literalStep_shorter found
  | expression => exact expressionStep_shorter found

/-- The tokens of a text, and what is left where scanning met an illegal character. -/
structure Scan where
  /-- The tokens found, in order. -/
  tokens : List Token
  /-- The text from the illegal character on, when scanning did not reach the end. -/
  stuck : Option (List Char)
  deriving DecidableEq, Repr

/-- Scans a text to its end or to the first illegal character. -/
def scanFrom (mode : Mode) (previous : Option Char) (text : List Char) : Scan :=
  match _found : step mode previous text with
  | .finished => ⟨[], none⟩
  | .illegal rest => ⟨[], some rest⟩
  | .token token rest =>
    let later := scanFrom (mode.after token) token.lexeme.getLast? rest
    ⟨token :: later.tokens, later.stuck⟩
termination_by text.length
decreasing_by exact step_shorter _found

/-- Scans a whole source, which begins with literal text. -/
def scan (source : String) : Scan :=
  scanFrom .literal none source.toList

/-- A character that no rule allows, and the number of bytes before it. -/
structure IllegalCharacter where
  /-- The character. -/
  character : Char
  /-- Its byte offset in the source. -/
  offset : Nat
  deriving DecidableEq, Repr

/-- An illegal character as error messages report it. -/
def IllegalCharacter.message (fault : IllegalCharacter) : String :=
  s!"Illegal character '{fault.character}' at offset {fault.offset}"

/-- The illegal character that stopped a scan of the source, if one did. -/
def Scan.fault? (source : String) (result : Scan) : Option IllegalCharacter :=
  match result.stuck with
  | some (character :: rest) =>
    some ⟨character, byteCount source.toList - byteCount (character :: rest)⟩
  | _ => none

/-- All tokens of a source, or the first illegal character. -/
def tokens (source : String) : Except IllegalCharacter (List Token) :=
  let result := scan source
  match result.fault? source with
  | some fault => .error fault
  | none => .ok result.tokens

end PayloadTemplate.Template
