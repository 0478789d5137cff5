import PayloadTemplate.Pattern.Bracket
import PayloadTemplate.Text.WordChar

/-!
Which texts are regular expressions.  The text of a pattern holds no closing brace: an opening one,
outside brackets, begins a count or a name that never ends.
-/

namespace PayloadTemplate.Pattern

open Text

/-- A part of a pattern, as far as it matters for what may follow. -/
structure Part where
  /-- Whether it can be repeated. -/
  repeatable : Bool
  /-- How deep its own parts are nested. -/
  height : Nat
  deriving DecidableEq, Repr

/-- Alternatives that are being read. -/
structure Alternatives where
  /-- How deep the finished ones are nested, the last first. -/
  finished : List Nat
  /-- The parts of the current one, the last first. -/
  parts : List Part
  deriving DecidableEq, Repr

namespace Alternatives

/-- Alternatives of which nothing has been read. -/
def empty : Alternatives := ⟨[], []⟩

/-- How deep the parts of the current alternative are nested. -/
def currentHeight (alternatives : Alternatives) : Nat :=
  heightOfList (alternatives.parts.map (·.height))

/-- How deep the alternatives are nested. -/
def height (alternatives : Alternatives) : Nat :=
  heightOfList (alternatives.currentHeight :: alternatives.finished)

/-- The alternatives with a further part. -/
def add (alternatives : Alternatives) (part : Part) : Alternatives :=
  ⟨alternatives.finished, part :: alternatives.parts⟩

/-- The alternatives with a further, empty one. -/
def next (alternatives : Alternatives) : Alternatives :=
  ⟨alternatives.currentHeight :: alternatives.finished, []⟩

/-- The alternatives with the last part repeated.  Something has to stand before the operator. -/
def repeatLast? (alternatives : Alternatives) : Option Alternatives :=
  match alternatives.parts with
  | ⟨true, height⟩ :: parts => some ⟨alternatives.finished, ⟨true, height + 1⟩ :: parts⟩
  | _ => none

end Alternatives

/-- What an opening parenthesis begins. -/
inductive Opening where
  /-- Settings for the rest of the group around it. -/
  | settings (mode : Mode)
  /-- A group, read in a mode and known by a name or by none. -/
  | group (mode : Mode) (name : Option (List Char))

/-- Whether a text may name a group. -/
def isGroupName : List Char → Bool
  | [] => false
  | first :: rest =>
    (first == '_' || isAlphabetic first) &&
      rest.all fun character =>
        ['_', '.', '[', ']'].contains character || isAlphanumeric character

/-- Takes the name of a group after its opening angle bracket. -/
def groupName? (mode : Mode) (text : List Char) : Option (Opening × List Char) :=
  let name := text.takeWhile (· != '>')
  match text.dropWhile (· != '>') with
  | '>' :: rest => if isGroupName name then some (.group mode (some name), rest) else none
  | _ => none

/-- Takes settings after a question mark, and tells whether they have a group of their own. -/
def settings? (mode : Mode) (text : List Char) : Option (Opening × List Char) :=
  let isEnd (character : Char) : Bool := character == ':' || character == ')'
  let letters := text.takeWhile (!isEnd ·)
  if areSettings letters then
    match text.dropWhile (!isEnd ·) with
    | ':' :: rest => some (.group (mode.change letters) none, rest)
    | ')' :: rest => if letters.isEmpty then none else some (.settings (mode.change letters), rest)
    | _ => none
  else none

/-- Takes what stands behind an opening parenthesis.  Looking ahead or back is not possible. -/
def opening? (mode : Mode) (text : List Char) : Option (Opening × List Char) :=
  match mode.skip text with
  | '?' :: '=' :: _ | '?' :: '!' :: _ | '?' :: '<' :: '=' :: _ | '?' :: '<' :: '!' :: _ => none
  | '?' :: 'P' :: '<' :: rest => groupName? mode rest
  | '?' :: '<' :: rest => groupName? mode rest
  | '?' :: rest => settings? mode rest
  | rest => some (.group mode none, rest)

/-- The text without the mark that makes a repetition as short as possible. -/
def skipLazyMark : List Char → List Char
  | '?' :: rest => rest
  | rest => rest

/-- What has been read up to a closing parenthesis or the end of the text. -/
structure Reading where
  /-- How deep it is nested. -/
  height : Nat
  /-- The names of all groups so far. -/
  names : List (List Char)
  /-- The text from the closing parenthesis on. -/
  rest : List Char

/-- The names of groups with a further one, which has to be new. -/
def addName? (names : List (List Char)) : Option (List Char) → Option (List (List Char))
  | none => some names
  | some name => if names.contains name then none else some (name :: names)

/-- Reads alternatives.  The number bounds the characters left. -/
def readAlternatives? (steps : Nat) (mode : Mode) (names : List (List Char))
    (alternatives : Alternatives) (text : List Char) : Option Reading :=
  match steps with
  | 0 => none
  | steps + 1 =>
    match mode.skip text with
    | [] => some ⟨alternatives.height, names, []⟩
    | ')' :: rest => some ⟨alternatives.height, names, ')' :: rest⟩
    | '|' :: rest => readAlternatives? steps mode names alternatives.next rest
    | '(' :: rest => do
      match ← opening? mode rest with
      | (.settings mode, rest) =>
        readAlternatives? steps mode names (alternatives.add ⟨false, 0⟩) rest
      | (.group inner name, rest) =>
        let names ← addName? names name
        let reading ← readAlternatives? steps inner names .empty rest
        match reading.rest with
        | ')' :: rest =>
          readAlternatives? steps mode reading.names (alternatives.add ⟨true, reading.height + 1⟩)
            rest
        | _ => none
    | '[' :: rest => do
      let (set, rest) ← set? mode rest
      readAlternatives? steps mode names (alternatives.add ⟨true, set.height⟩) rest
    | '{' :: _ => none
    | '?' :: rest | '*' :: rest | '+' :: rest => do
      let alternatives ← alternatives.repeatLast?
      readAlternatives? steps mode names alternatives (skipLazyMark rest)
    | rest => do
      let (atom, rest) ← atom? mode rest
      if atom.isAllowed mode then
        readAlternatives? steps mode names (alternatives.add ⟨true, 0⟩) rest
      else none

/-- The deepest nesting of a pattern. -/
def nestingLimit : Nat := 250

/-- Whether a text is a pattern. -/
def isPattern (text : List Char) : Bool :=
  match readAlternatives? (text.length + 1) .initial [] .empty text with
  | some reading => reading.rest.isEmpty && Nat.ble reading.height nestingLimit
  | none => false

end PayloadTemplate.Pattern
