import PayloadTemplate.Json.Reader

/-!
Passing over values that nobody asked for.  Such values may be nested to any depth, their numbers
may be of any size and their escapes may stand for half a character.
-/

namespace PayloadTemplate.Json

/-- Takes an escape sequence after its backslash without asking what it stands for. -/
def skipEscape : List Char → Except Fault (List Char)
  | [] => .error (.before .endInString [])
  | 'u' :: rest => do
    let (_, rest) ← readUnit rest
    return rest
  | letter :: rest =>
    if (shortEscaped? letter).isSome then .ok rest
    else .error (.at .invalidEscape (letter :: rest))

/-- Takes a string after its opening quote.  The number bounds the characters that are left. -/
def skipString (steps : Nat) (text : List Char) : Except Fault (List Char) :=
  match steps, text with
  | 0, _ | _, [] => .error (.before .endInString [])
  | _ + 1, '"' :: rest => .ok rest
  | steps + 1, '\\' :: rest => skipEscape rest >>= skipString steps
  | steps + 1, character :: rest =>
    if character.toNat < 0x20 then .error (.before .controlCharacter (character :: rest))
    else skipString steps rest

/-- Takes one digit at least and all that follow it. -/
def skipDigits : List Char → Except Fault (List Char)
  | [] => .error (.before .invalidNumber [])
  | first :: rest =>
    if first.isDigit then .ok (rest.dropWhile Char.isDigit)
    else .error (.at .invalidNumber (first :: rest))

/-- Takes the digits before the point: a zero alone, or digits that begin with another one. -/
def skipWhole : List Char → Except Fault (List Char)
  | '0' :: rest =>
    if startsWithDigit rest then .error (.at .invalidNumber rest) else .ok rest
  | rest => skipDigits rest

/-- Takes an exponent, if there is one. -/
def skipExponent : List Char → Except Fault (List Char)
  | 'e' :: rest | 'E' :: rest => skipDigits (exponentSign rest).2
  | rest => .ok rest

/-- Takes a number after its minus, if it has one. -/
def skipNumeral (text : List Char) : Except Fault (List Char) := do
  let rest ← skipWhole text
  match rest with
  | '.' :: rest => skipDigits rest >>= skipExponent
  | rest => skipExponent rest

/-- Looks for a further member of a skipped sequence.  Whether a member follows the comma is for
the next step to see. -/
def nextSkippedMember (text : List Char) : Except Fault ListNext :=
  match skipSpacing text with
  | [] => .error (.before .endInList [])
  | ']' :: rest => .ok (.finished rest)
  | ',' :: rest => .ok (.member rest)
  | rest => .error (.at .expectedListCommaOrEnd rest)

/-- Takes the opening quote of a key. -/
def skippedKey (text : List Char) : Except Fault ObjectNext :=
  match skipSpacing text with
  | [] => .error (.before .endInObject [])
  | '"' :: rest => .ok (.key rest)
  | rest => .error (.at .keyMustBeString rest)

/-- Looks for a further key of a skipped map. -/
def nextSkippedKey (text : List Char) : Except Fault ObjectNext :=
  match skipSpacing text with
  | [] => .error (.before .endInObject [])
  | '}' :: rest => .ok (.finished rest)
  | ',' :: rest => skippedKey rest
  | rest => .error (.at .expectedObjectCommaOrEnd rest)

mutual

/-- Takes a value.  The number bounds the characters that are left. -/
def skipValue (steps : Nat) (text : List Char) : Except Fault (List Char) :=
  match steps with
  | 0 => .error (.before .endInValue [])
  | steps + 1 =>
    match skipSpacing text with
    | [] => .error (.before .endInValue [])
    | 'n' :: rest => readWord ['u', 'l', 'l'] rest
    | 't' :: rest => readWord ['r', 'u', 'e'] rest
    | 'f' :: rest => readWord ['a', 'l', 's', 'e'] rest
    | '"' :: rest => skipString steps rest
    | '-' :: rest => skipNumeral rest
    | '[' :: rest => firstMember rest >>= skipItems steps
    | '{' :: rest => firstKey rest >>= skipBindings steps
    | first :: rest =>
      if first.isDigit then skipNumeral (first :: rest)
      else .error (.at .expectedValue (first :: rest))

/-- Takes the members of a sequence from the given one on. -/
def skipItems (steps : Nat) (next : ListNext) : Except Fault (List Char) :=
  match steps, next with
  | _, .finished rest => .ok rest
  | 0, .member _ => .error (.before .endInList [])
  | steps + 1, .member text => do
    let rest ← skipValue steps text
    nextSkippedMember rest >>= skipItems steps

/-- Takes the bindings of a map from the given key on. -/
def skipBindings (steps : Nat) (next : ObjectNext) : Except Fault (List Char) :=
  match steps, next with
  | _, .finished rest => .ok rest
  | 0, .key _ => .error (.before .endInObject [])
  | steps + 1, .key text => do
    let rest ← skipString steps text
    let rest ← readColon rest
    let rest ← skipValue steps rest
    nextSkippedKey rest >>= skipBindings steps

end

end PayloadTemplate.Json
