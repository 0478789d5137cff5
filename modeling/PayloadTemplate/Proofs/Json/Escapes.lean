import Mathlib.Tactic.IntervalCases
import PayloadTemplate.Json.StringLiteral
import PayloadTemplate.Json.Writer
import PayloadTemplate.Proofs.Outcome

/-! Strings that were written as JSON text read back as the strings that they were written from. -/

namespace PayloadTemplate.Json

open Text

/-! ## The digits of an escape -/

/-- Each of the sixteen digits has its own value. -/
theorem hexValue?_hexDigit {value : Nat} (small : value < 16) :
    hexValue? (hexDigit value) = some value := by
  interval_cases value <;> rfl

/-- Four digits are read exactly when they stand at the front. -/
theorem readUnit_eq_ok_iff {text rest : List Char} {unit : Nat} :
    readUnit text = .ok (unit, rest) ↔
      ∃ digits, text = digits ++ rest ∧ unitOf? digits = some unit := by
  -- No fewer and no more than four characters make up a unit.
  have four : ∀ {digits}, unitOf? digits = some unit → digits.length = 4 := by
    intro digits made
    unfold unitOf? at made
    split at made
    · rfl
    · cases made
  unfold readUnit
  constructor
  · intro read
    split at read
    · rename_i made
      cases read
      exact ⟨text.take 4, (List.take_append_drop 4 text).symm, made⟩
    · split at read <;> cases read
  · -- Four digits that make up a unit are just those that the reader takes.
    intro split
    obtain ⟨digits, rfl, made⟩ := split
    rw [List.take_left' (four made), List.drop_left' (four made), made]

/-- The digits of a 16-bit unit are read as the unit. -/
theorem unitOf?_digits {unit : Nat} (small : unit < 0x10000) :
    unitOf? [hexDigit (unit / 4096 % 16), hexDigit (unit / 256 % 16), hexDigit (unit / 16 % 16),
      hexDigit (unit % 16)] = some unit := by
  -- The four remainders are the digits of the unit in base sixteen.
  have digit : ∀ value, hexValue? (hexDigit (value % 16)) = some (value % 16) := fun value =>
    hexValue?_hexDigit (Nat.mod_lt value (by decide))
  have sum : ((unit / 4096 % 16 * 16 + unit / 256 % 16) * 16 + unit / 16 % 16) * 16 + unit % 16 =
      unit := by omega
  simp [unitOf?, digit, sum]

/-- An escape with four digits is read as its unit. -/
theorem readUnit_unitEscape {unit : Nat} (small : unit < 0x10000) (rest : List Char) :
    ∃ digits, unitEscape unit = '\\' :: 'u' :: digits ∧
      readUnit (digits ++ rest) = .ok (unit, rest) :=
  ⟨_, rfl, readUnit_eq_ok_iff.mpr ⟨_, rfl, unitOf?_digits small⟩⟩

/-! ## Escapes -/

theorem isLeadingSurrogate_iff {unit : Nat} :
    isLeadingSurrogate unit = true ↔ 0xD800 ≤ unit ∧ unit ≤ 0xDBFF := by
  simp [isLeadingSurrogate]

theorem isTrailingSurrogate_iff {unit : Nat} :
    isTrailingSurrogate unit = true ↔ 0xDC00 ≤ unit ∧ unit ≤ 0xDFFF := by
  simp [isTrailingSurrogate]

/-- A short escape is read as the character that it was written for. -/
theorem readEscape_short {character letter : Char} (short : shortEscape? character = some letter)
    (rest : List Char) : readEscape (letter :: rest) = .ok (character, rest) := by
  -- Each letter stands for the character that it is the letter of.
  unfold shortEscape? at short
  split at short <;> cases short <;> rfl

/-- An escape with four digits is read as the character with that code point. -/
theorem readEscape_unitEscape {character : Char} (plane : character.toNat < 0x10000)
    (rest : List Char) :
    ∃ tail, unitEscape character.toNat ++ rest = '\\' :: tail ∧
      readEscape tail = .ok (character, rest) := by
  obtain ⟨digits, written, read⟩ := readUnit_unitEscape plane rest
  -- The unit is read back as a number, and it must not be half of a pair.
  refine ⟨'u' :: digits ++ rest, by rw [written]; rfl, ?_⟩
  -- No character is a surrogate.
  have valid : character.toNat < 0xD800 ∨ 0xDFFF < character.toNat := by
    rcases character.valid with low | high
    · exact .inl low
    · exact .inr high.1
  have trailing : isTrailingSurrogate character.toNat = false := by
    rw [Bool.eq_false_iff, Ne, isTrailingSurrogate_iff]
    omega
  have leading : isLeadingSurrogate character.toNat = false := by
    rw [Bool.eq_false_iff, Ne, isLeadingSurrogate_iff]
    omega
  simp only [List.cons_append, readEscape, readUnicodeEscape, read, Bind.bind, Except.bind,
    trailing, leading, Bool.false_eq_true, if_false, Pure.pure, Except.pure,
    Char.ofNat_toNat]

/-- Two escapes with the surrogates of a character are read as that character. -/
theorem readEscape_surrogates {character : Char} (beyond : 0x10000 ≤ character.toNat)
    (rest : List Char) :
    ∃ tail, (utf16Units character).flatMap unitEscape ++ rest = '\\' :: tail ∧
      readEscape tail = .ok (character, rest) := by
  -- The halves of the offset beyond the first plane have ten bits each.
  have bound : character.toNat < 0x110000 := by
    rcases character.valid with low | high
    · have : character.toNat < 0xD800 := low
      omega
    · exact high.2
  let leading := 0xD800 + (character.toNat - 0x10000) / 0x400
  let trailing := 0xDC00 + (character.toNat - 0x10000) % 0x400
  have units : utf16Units character = [leading, trailing] := if_neg (Nat.not_lt.mpr beyond)
  obtain ⟨second, writtenSecond, readSecond⟩ :=
    readUnit_unitEscape (show trailing < 0x10000 by omega) rest
  obtain ⟨first, writtenFirst, readFirst⟩ :=
    readUnit_unitEscape (show leading < 0x10000 by omega) ('\\' :: 'u' :: second ++ rest)
  refine ⟨'u' :: first ++ ('\\' :: 'u' :: second ++ rest), ?_, ?_⟩
  · simp [units, writtenFirst, writtenSecond]
  · have notTrailing : isTrailingSurrogate leading = false := by
      rw [Bool.eq_false_iff, Ne, isTrailingSurrogate_iff]
      omega
    have isLeading : isLeadingSurrogate leading = true := isLeadingSurrogate_iff.mpr (by omega)
    have isTrailing : isTrailingSurrogate trailing = true :=
      isTrailingSurrogate_iff.mpr (by omega)
    -- Put together again, the halves are the offset that was split.
    have paired : pairedCharacter leading trailing = character := by
      have whole : 0x10000 + (leading - 0xD800) * 0x400 + (trailing - 0xDC00) =
          character.toNat := by omega
      rw [pairedCharacter, whole, Char.ofNat_toNat]
    simp only [List.cons_append] at readFirst
    simp only [List.cons_append, readEscape, readUnicodeEscape, readFirst, Bind.bind, Except.bind,
      notTrailing, isLeading, Bool.false_eq_true, if_false, if_true, readTrailing, readSecond,
      isTrailing, paired, Pure.pure, Except.pure]

/-! ## Strings -/

variable {rules : Rules} {character : Char} {rest : List Char}

/-- What is read of a string that goes on after a character. -/
def followedBy (character : Char) (read : Except Fault (List Char × List Char)) :
    Except Fault (List Char × List Char) := do
  let (later, rest) ← read
  return (character :: later, rest)

/-- A quote ends a string. -/
theorem readStringChars_quote (rules : Rules) (rest : List Char) :
    readStringChars rules ('"' :: rest) = .ok ([], rest) := by
  rw [readStringChars]

/-- A backslash in a string begins an escape sequence. -/
theorem readStringChars_backslash (rules : Rules) (tail : List Char) :
    readStringChars rules ('\\' :: tail) =
      readEscape tail >>= fun result => followedBy result.1 (readStringChars rules result.2) := by
  -- The reader matches on what the escape gives, and so does the sequence of both.
  rw [readStringChars]
  split
  · rename_i read
    rw [read]
    rfl
  · rename_i read
    rw [read]
    rfl

/-- A string goes on behind an escape sequence with the character that it stands for. -/
theorem readStringChars_escape {tail : List Char}
    (read : readEscape tail = .ok (character, rest)) :
    readStringChars rules ('\\' :: tail) =
      followedBy character (readStringChars rules rest) := by
  rw [readStringChars_backslash, read]
  rfl

/-- Strict reading refuses control characters; all other characters stand for themselves. -/
theorem readStringChars_cons (quote : character ≠ '"') (backslash : character ≠ '\\') :
    readStringChars rules (character :: rest) =
      if rules = .strict ∧ character.toNat < 0x20 then
        .error (.at .controlCharacter (character :: rest))
      else
        followedBy character (readStringChars rules rest) := by
  -- The first two cases of the reader are for the quote and the backslash.
  rw [readStringChars]
  · rfl
  · exact fun same => quote same
  · exact fun same => backslash same

/-- A character inside a string is written as it is or as an escape sequence that is read back. -/
theorem stringChar_cases (style : Style) (character : Char) :
    (stringChar style character = [character] ∧ character ≠ '"' ∧ character ≠ '\\' ∧
        0x20 ≤ character.toNat) ∨
      ∀ rest, ∃ tail, stringChar style character ++ rest = '\\' :: tail ∧
        readEscape tail = .ok (character, rest) := by
  -- The sequence is a short escape, or one or two escapes with digits.
  unfold stringChar
  split
  · rename_i letter short
    exact .inr fun rest => ⟨letter :: rest, rfl, readEscape_short short rest⟩
  · rename_i long
    split
    · rename_i control
      exact .inr (readEscape_unitEscape (Nat.lt_trans control (by decide)))
    · rename_i printable
      split
      · refine .inr fun rest => ?_
        by_cases plane : character.toNat < 0x10000
        · have single : utf16Units character = [character.toNat] := if_pos plane
          rw [single, List.flatMap_singleton]
          exact readEscape_unitEscape plane rest
        · exact readEscape_surrogates (Nat.not_lt.mp plane) rest
      · -- What is left stands for itself, as quotes and backslashes have short escapes.
        refine .inl ⟨rfl, ?_, ?_, Nat.not_lt.mp printable⟩
        · rintro rfl
          cases long
        · rintro rfl
          cases long

/-- A character that was written inside a string is read back. -/
theorem readStringChars_stringChar (rules : Rules) (style : Style) (character : Char)
    (rest : List Char) :
    readStringChars rules (stringChar style character ++ rest) =
      followedBy character (readStringChars rules rest) := by
  -- The character stands for itself, or an escape sequence is read in its place.
  rcases stringChar_cases style character with ⟨plain, quote, backslash, printable⟩ | escaped
  · rw [plain]
    exact (readStringChars_cons quote backslash).trans
      (if_neg fun control => Nat.not_lt.mpr printable control.2)
  · obtain ⟨tail, written, read⟩ := escaped rest
    rw [written, readStringChars_escape read]

/-- A string that was written is read back after its opening quote, and reading goes on behind its
closing one. -/
theorem readString_of_stringChars {style : Style} {text : String} {tail : List Char}
    (quote : stringChars style text ++ rest = '"' :: tail) :
    readString rules tail = .ok (text, rest) := by
  -- The characters are read back one after the other.
  have read : ∀ characters : List Char,
      readStringChars rules (characters.flatMap (stringChar style) ++ '"' :: rest) =
        .ok (characters, rest) := by
    intro characters
    induction characters with
    | nil => exact readStringChars_quote rules rest
    | cons character later ih =>
      rw [List.flatMap_cons, List.append_assoc, readStringChars_stringChar, ih]
      rfl
  obtain rfl : text.toList.flatMap (stringChar style) ++ '"' :: rest = tail := by
    simpa [stringChars] using quote
  rw [readString, read]
  simp [Bind.bind, Except.bind, Pure.pure, Except.pure]

/-- The text of a string begins with a quote. -/
theorem exists_stringChars_append (style : Style) (text : String) (rest : List Char) :
    ∃ tail, stringChars style text ++ rest = '"' :: tail :=
  ⟨_, rfl⟩

end PayloadTemplate.Json
