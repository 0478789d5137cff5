import PayloadTemplate.Json.Reader

/-! What the readers do with a text, by the character at its front. -/

namespace PayloadTemplate.Json

/-- Looks at the first character of a text, which must have one. -/
def front {α : Type} (absent : Fault) (present : Char → List Char → Except Fault α) :
    List Char → Except Fault α
  | [] => .error absent
  | character :: rest => present character rest

/-! ## Between values -/

theorem readColon_eq (text : List Char) :
    readColon text =
      front (.before .endInObject []) (fun character rest =>
          if character = ':' then .ok rest else .error (.at .expectedColon (character :: rest)))
        (skipSpacing text) := by
  unfold readColon front
  grind

theorem firstMember_eq (text : List Char) :
    firstMember text =
      front (.before .endInList []) (fun character rest =>
          if character = ']' then .ok (.finished rest) else .ok (.member (character :: rest)))
        (skipSpacing text) := by
  unfold firstMember front
  grind

/-- Looks for a member of a sequence after a comma. -/
def memberAfterComma (text : List Char) : Except Fault ListNext :=
  front (.before .endInValue []) (fun character rest =>
      if character = ']' then .error (.at .trailingComma (character :: rest))
      else .ok (.member (character :: rest)))
    (skipSpacing text)

theorem nextMember_eq (text : List Char) :
    nextMember text =
      front (.before .endInList []) (fun character rest =>
          if character = ']' then .ok (.finished rest)
          else if character = ',' then memberAfterComma rest
          else .error (.at .expectedListCommaOrEnd (character :: rest)))
        (skipSpacing text) := by
  unfold nextMember memberAfterComma front
  grind

theorem firstKey_eq (text : List Char) :
    firstKey text =
      front (.before .endInObject []) (fun character rest =>
          if character = '}' then .ok (.finished rest)
          else if character = '"' then .ok (.key rest)
          else .error (.at .keyMustBeString (character :: rest)))
        (skipSpacing text) := by
  unfold firstKey front
  grind

/-- Looks for a key of a map after a comma. -/
def keyAfterComma (text : List Char) : Except Fault ObjectNext :=
  front (.before .endInValue []) (fun character rest =>
      if character = '"' then .ok (.key rest)
      else if character = '}' then .error (.at .trailingComma (character :: rest))
      else .error (.at .keyMustBeString (character :: rest)))
    (skipSpacing text)

theorem nextKey_eq (text : List Char) :
    nextKey text =
      front (.before .endInObject []) (fun character rest =>
          if character = '}' then .ok (.finished rest)
          else if character = ',' then keyAfterComma rest
          else .error (.at .expectedObjectCommaOrEnd (character :: rest)))
        (skipSpacing text) := by
  unfold nextKey keyAfterComma front
  grind

/-! ## Numbers -/

theorem exponentSign_cons (character : Char) (rest : List Char) :
    exponentSign (character :: rest) =
      if character = '+' then (false, rest)
      else if character = '-' then (true, rest)
      else (false, character :: rest) := by
  unfold exponentSign
  grind

theorem readFloatEnd_cons (negative : Bool) (significand : Nat) (point : Int) (character : Char)
    (rest : List Char) :
    readFloatEnd negative significand point (character :: rest) =
      if character = 'e' ∨ character = 'E' then readExponent negative significand point rest
      else finishFloat negative significand point (character :: rest) := by
  unfold readFloatEnd
  grind

theorem readIntegerEnd_cons (negative : Bool) (value : Nat) (character : Char)
    (rest : List Char) :
    readIntegerEnd negative value (character :: rest) =
      if character = '.' then readFraction negative value 0 rest
      else if character = 'e' ∨ character = 'E' then readExponent negative value 0 rest
      else integerNumber negative value (character :: rest) := by
  unfold readIntegerEnd
  grind

theorem readLongIntegerEnd_cons (negative : Bool) (value places : Nat) (character : Char)
    (rest : List Char) :
    readLongIntegerEnd negative value places (character :: rest) =
      if character = '.' then readFraction negative value places rest
      else if character = 'e' ∨ character = 'E' then readExponent negative value places rest
      else finishFloat negative value places (character :: rest) := by
  unfold readLongIntegerEnd
  grind

theorem readNumeral_cons (negative : Bool) (first : Char) (rest : List Char) :
    readNumeral negative (first :: rest) =
      if first = '0' then
        if startsWithDigit rest then .error (.at .invalidNumber rest)
        else readIntegerEnd negative 0 rest
      else if first.isDigit then
        let digits := gather significandBound (digitValue first) rest
        if startsWithDigit digits.rest then
          readLongIntegerEnd negative digits.value (digits.rest.takeWhile Char.isDigit).length
            (digits.rest.dropWhile Char.isDigit)
        else
          readIntegerEnd negative digits.value digits.rest
      else
        .error (.at .invalidNumber (first :: rest)) := by
  unfold readNumeral
  grind

/-! ## Values -/

/-- A value, by the character at its front. -/
def valueFrom (rules : Rules) (items : Nat → ListNext → Except Fault (List Value × List Char))
    (bindings : Nat → ObjectNext → Except Fault (List (String × Value) × List Char)) (depth : Nat)
    (first : Char) (rest : List Char) : Except Fault (Value × List Char) :=
  if first = 'n' then return (.null, ← readWord ['u', 'l', 'l'] rest)
  else if first = 't' then return (.bool true, ← readWord ['r', 'u', 'e'] rest)
  else if first = 'f' then return (.bool false, ← readWord ['a', 'l', 's', 'e'] rest)
  else if first = '"' then do
    let (content, rest) ← readString rules rest
    return (.string content, rest)
  else if first = '-' then do
    let (number, rest) ← readNumeral true rest
    return (.number number, rest)
  else if first = '[' then
    match depth with
    | 0 => .error (.at .nestedTooDeeply (first :: rest))
    | depth + 1 => do
      let (members, rest) ← firstMember rest >>= items depth
      return (.sequence members, rest)
  else if first = '{' then
    match depth with
    | 0 => .error (.at .nestedTooDeeply (first :: rest))
    | depth + 1 => do
      let (entries, rest) ← firstKey rest >>= bindings depth
      return (.ofBindings entries, rest)
  else if first.isDigit then do
    let (number, rest) ← readNumeral false (first :: rest)
    return (.number number, rest)
  else .error (.at .expectedValue (first :: rest))

/-- A digit begins a number. -/
theorem valueFrom_digit {rules : Rules} {items} {bindings} {depth : Nat} {first : Char}
    (decimal : first.isDigit = true) (rest : List Char) :
    valueFrom rules items bindings depth first rest =
      readNumeral false (first :: rest) >>= fun result =>
        .ok (.number result.1, result.2) := by
  -- All the tests in front of the one for digits are for characters that are no digits.
  have other : ∀ letter : Char, letter.isDigit = false → first ≠ letter := by
    rintro letter none rfl
    rw [none] at decimal
    cases decimal
  unfold valueFrom
  rw [if_neg (other 'n' rfl), if_neg (other 't' rfl), if_neg (other 'f' rfl),
    if_neg (other '"' rfl), if_neg (other '-' rfl), if_neg (other '[' rfl),
    if_neg (other '\x7b' rfl), if_pos decimal]
  rfl

/-- A bracket begins a sequence. -/
theorem valueFrom_bracket (rules : Rules)
    (items : Nat → ListNext → Except Fault (List Value × List Char)) {bindings} (depth : Nat)
    (rest : List Char) :
    valueFrom rules items bindings (depth + 1) '[' rest =
      firstMember rest >>= items depth >>= fun result => .ok (.sequence result.1, result.2) :=
  rfl

/-- A brace begins a map. -/
theorem valueFrom_brace (rules : Rules) {items}
    (bindings : Nat → ObjectNext → Except Fault (List (String × Value) × List Char)) (depth : Nat)
    (rest : List Char) :
    valueFrom rules items bindings (depth + 1) '\x7b' rest =
      firstKey rest >>= bindings depth >>= fun result => .ok (.ofBindings result.1, result.2) :=
  rfl

theorem readValue_eq (rules : Rules) (steps depth : Nat) (text : List Char) :
    readValue rules (steps + 1) depth text =
      front (.before .endInValue [])
        (valueFrom rules (readItems rules steps) (readBindings rules steps) depth)
        (skipSpacing text) := by
  unfold readValue valueFrom front
  grind

end PayloadTemplate.Json
