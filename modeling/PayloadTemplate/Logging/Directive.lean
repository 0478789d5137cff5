import PayloadTemplate.Logging.Threshold
import PayloadTemplate.Pattern.Validity
import PayloadTemplate.Text.Blank
import PayloadTemplate.Text.Real
import PayloadTemplate.Text.Slice
import PayloadTemplate.Text.WordChar

/-!
The parts of a filter.  Each sets a threshold, for all diagnostics or for those with a target,
inside a span or with a field.
-/

namespace PayloadTemplate.Logging

open Text

/-- What a diagnostic or a span is asked to carry. -/
structure FieldRule where
  /-- The name of the field. -/
  name : String
  /-- What its value has to be, if anything. -/
  value : Option String
  deriving DecidableEq, Repr

/-- One part of a filter. -/
structure Directive where
  /-- The text that targets begin with, if not all are meant. -/
  target : Option String
  /-- The span that diagnostics lie in, if not all are meant. -/
  span : Option String
  /-- The field, if none is not enough. -/
  field : Option FieldRule
  /-- What is let through. -/
  threshold : Threshold
  deriving DecidableEq, Repr

/-- Whether a directive may begin with a character. -/
def isDirectiveStart (character : Char) : Bool :=
  isAlphanumeric character || ['-', ':', '_', '['].contains character

/-- The threshold that a text behind an equals sign names; nothing there lets everything through. -/
def thresholdAfter? (text : List Char) : Option Threshold :=
  if text.isEmpty then some (some .trace) else threshold? (String.ofList text)

/-- The rule that a text in braces spells: a name, and behind an equals sign a number or a pattern.
What a further equals sign sets apart does not count. -/
def fieldRule? (text : List Char) : Option FieldRule :=
  let name := String.ofList (text.takeWhile (· != '='))
  match text.dropWhile (· != '=') with
  | [] => if text.isEmpty then none else some ⟨name, none⟩
  | _ :: rest =>
    let value := rest.takeWhile (· != '=')
    if isReal value || Pattern.isPattern value then
      some ⟨name, some (String.ofList value)⟩
    else none

/-- The threshold at the end of a directive, whose rest begins at a place: that behind an equals
sign, or everything. -/
def finalThreshold? (piece : List Char) (place : Nat) : List Char → Option Threshold
  | [] => some (some .trace)
  | '=' :: _ => (fromByte? (place + 1) piece).bind thresholdAfter?
  | _ => none

/-- The directive with a target and a scope in brackets, which begins at a place. -/
def scoped? (piece : List Char) (target : Option String) (place : Nat) (scope : List Char) :
    Option Directive := do
  let isEnd (character : Char) : Bool := character == ']' || character == '{'
  let spanEnd := place + byteCount (scope.takeWhile (!isEnd ·))
  let span ← slice? piece place spanEnd
  match scope.dropWhile (!isEnd ·) with
  | ']' :: rest =>
    let threshold ← finalThreshold? piece (spanEnd + 1) rest
    some ⟨target, some (String.ofList span), none, threshold⟩
  | '{' :: rest =>
    let fieldEnd := spanEnd + 1 + byteCount (rest.takeWhile (· != '}'))
    let field ← fieldRule? (← slice? piece (spanEnd + 1) fieldEnd)
    match rest.dropWhile (· != '}') with
    | '}' :: ']' :: rest =>
      let threshold ← finalThreshold? piece (fieldEnd + 2) rest
      some ⟨target, if span.isEmpty then none else some (String.ofList span), some field, threshold⟩
    | _ => none
  | _ => none

/-- The directive that a part of a filter spells.  Blanks around it are passed over when the places
of its parts are found out, but the parts are cut from the whole text at those places; so no
threshold follows a target after blanks. -/
def directive? (piece : List Char) : Option Directive :=
  let form := trimmedChars piece
  let isMark (character : Char) : Bool := character == '=' || character == '['
  let nameEnd := byteCount (form.takeWhile (!isMark ·))
  if !(form.head?.any isDirectiveStart) then
    none
  else
    match form.dropWhile (!isMark ·) with
    | [] =>
      match threshold? (String.ofList piece) with
      | some threshold => some ⟨none, none, none, threshold⟩
      | none => some ⟨some (String.ofList piece), none, none, some .trace⟩
    | '=' :: rest => do
      let target ← slice? piece 0 nameEnd
      let threshold ← finalThreshold? piece nameEnd ('=' :: rest)
      some ⟨some (String.ofList target), none, none, threshold⟩
    | _ :: scope => do
      let target ← slice? piece 0 nameEnd
      scoped? piece (if nameEnd = 0 then none else some (String.ofList target)) (nameEnd + 1) scope

end PayloadTemplate.Logging
