import PayloadTemplate.Json.Fault
import PayloadTemplate.Text.Hexadecimal

/-! Reading strings. -/

namespace PayloadTemplate.Json

open Text

/-- How control characters inside strings are treated. -/
inductive Rules where
  /-- A control character is a fault. -/
  | strict
  /-- A control character stands for itself. -/
  | lenient
  deriving DecidableEq, Repr

/-- The 16-bit unit that four digits in base sixteen make up. -/
def unitOf? : List Char → Option Nat
  | [first, second, third, fourth] => do
    let first ← hexValue? first
    let second ← hexValue? second
    let third ← hexValue? third
    let fourth ← hexValue? fourth
    return ((first * 16 + second) * 16 + third) * 16 + fourth
  | _ => none

/-- Reads the four digits of an escape.  Four bytes are taken before they are looked at. -/
def readUnit (text : List Char) : Except Fault (Nat × List Char) :=
  match unitOf? (text.take 4) with
  | some unit => .ok (unit, text.drop 4)
  | none =>
    if byteCount text < 4 then .error (.before .endInString [])
    else .error ⟨.invalidEscape, byteCount text - 4⟩

/-- Whether a unit is the first half of a surrogate pair. -/
def isLeadingSurrogate (unit : Nat) : Bool :=
  Nat.ble 0xD800 unit && Nat.ble unit 0xDBFF

/-- Whether a unit is the second half of a surrogate pair. -/
def isTrailingSurrogate (unit : Nat) : Bool :=
  Nat.ble 0xDC00 unit && Nat.ble unit 0xDFFF

/-- The character beyond the first plane that two surrogates stand for. -/
def pairedCharacter (leading trailing : Nat) : Char :=
  Char.ofNat (0x10000 + (leading - 0xD800) * 0x400 + (trailing - 0xDC00))

/-- Reads the second half of a surrogate pair. -/
def readTrailing (leading : Nat) : List Char → Except Fault (Char × List Char)
  | '\\' :: 'u' :: rest => do
    let (unit, rest) ← readUnit rest
    if isTrailingSurrogate unit then
      return (pairedCharacter leading unit, rest)
    else
      throw (.before .loneSurrogate rest)
  | '\\' :: rest =>
    .error (if rest.isEmpty then .before .endInString [] else .at .unfinishedSurrogatePair rest)
  | rest =>
    .error (if rest.isEmpty then .before .endInString [] else .at .unfinishedSurrogatePair rest)

/-- Reads the digits of an escape, and the second half of a surrogate pair after the first. -/
def readUnicodeEscape (text : List Char) : Except Fault (Char × List Char) := do
  let (unit, rest) ← readUnit text
  if isTrailingSurrogate unit then
    throw (.before .loneSurrogate rest)
  else if isLeadingSurrogate unit then
    readTrailing unit rest
  else
    return (Char.ofNat unit, rest)

/-- The character that the letter of a short escape stands for. -/
def shortEscaped? : Char → Option Char
  | '"' => some '"'
  | '\\' => some '\\'
  | '/' => some '/'
  | 'b' => some '\x08'
  | 'f' => some '\x0c'
  | 'n' => some '\n'
  | 'r' => some '\r'
  | 't' => some '\t'
  | _ => none

/-- Reads an escape sequence after its backslash. -/
def readEscape : List Char → Except Fault (Char × List Char)
  | [] => .error (.before .endInString [])
  | 'u' :: rest => readUnicodeEscape rest
  | letter :: rest =>
    match shortEscaped? letter with
    | some character => .ok (character, rest)
    | none => .error (.at .invalidEscape (letter :: rest))

/-- The digits of an escape leave less to read. -/
theorem readUnit_length {text rest : List Char} {unit : Nat}
    (read : readUnit text = .ok (unit, rest)) : rest.length ≤ text.length := by
  -- The rest is the text without its first four characters.
  unfold readUnit at read
  split at read
  · cases read
    simp
  · split at read <;> cases read

/-- The second half of a surrogate pair leaves less to read. -/
theorem readTrailing_length {leading : Nat} {text rest : List Char} {character : Char}
    (read : readTrailing leading text = .ok (character, rest)) : rest.length ≤ text.length := by
  -- Only the digits of a second escape can succeed.
  unfold readTrailing at read
  split at read
  · rename_i tail
    cases unitRead : readUnit tail with
    | error fault => simp [unitRead, bind, Except.bind] at read
    | ok result =>
      have shorter := readUnit_length unitRead
      simp only [unitRead, bind, Except.bind] at read
      split at read
      · simp only [pure, Except.pure, Except.ok.injEq, Prod.mk.injEq] at read
        obtain ⟨_, rfl⟩ := read
        simp only [List.length_cons]
        omega
      · cases read
  · split at read <;> cases read
  · split at read <;> cases read

/-- An escape sequence leaves no more to read than stood after its backslash. -/
theorem readEscape_length {text rest : List Char} {character : Char}
    (read : readEscape text = .ok (character, rest)) : rest.length ≤ text.length := by
  -- A short escape takes its letter, a long one its digits.
  unfold readEscape at read
  split at read
  · cases read
  · rename_i tail
    unfold readUnicodeEscape at read
    cases unitRead : readUnit tail with
    | error fault => simp [unitRead, bind, Except.bind] at read
    | ok result =>
      have shorter := readUnit_length unitRead
      simp only [unitRead, bind, Except.bind] at read
      split at read
      · cases read
      · split at read
        · have := readTrailing_length read
          simp only [List.length_cons]
          omega
        · cases read
          simp only [List.length_cons]
          omega
  · split at read <;> cases read
    simp

/-- Reads the characters of a string up to its closing quote. -/
def readStringChars (rules : Rules) (text : List Char) : Except Fault (List Char × List Char) :=
  match text with
  | [] => .error (.before .endInString [])
  | '"' :: rest => .ok ([], rest)
  | '\\' :: tail =>
    match _read : readEscape tail with
    | .error fault => .error fault
    | .ok (character, rest) => do
      let (later, rest) ← readStringChars rules rest
      return (character :: later, rest)
  | character :: rest =>
    if rules = .strict ∧ character.toNat < 0x20 then
      .error (.at .controlCharacter (character :: rest))
    else do
      let (later, rest) ← readStringChars rules rest
      return (character :: later, rest)
termination_by text.length
decreasing_by
  · have := readEscape_length _read
    simp only [List.length_cons]
    omega
  · simp

/-- Reads a string after its opening quote. -/
def readString (rules : Rules) (text : List Char) : Except Fault (String × List Char) := do
  let (characters, rest) ← readStringChars rules text
  return (String.ofList characters, rest)

end PayloadTemplate.Json
