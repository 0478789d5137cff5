import PayloadTemplate.Proofs.Json.Escapes
import PayloadTemplate.Proofs.Json.Mirroring

/-! Strings and values are read alike from a text and strictly from its escaped form. -/

namespace PayloadTemplate.Json

open Text

variable {rules : Rules}

/-! ## Escape sequences -/

/-- Inside strings all characters are passed over but quotes, backslashes and control characters. -/
theorem Region.inside_keeps {character : Char} (quote : character ≠ '"')
    (backslash : character ≠ '\\') (printable : 0x20 ≤ character.toNat) :
    Region.inside.Keeps character :=
  ⟨by simp [Region.after, quote, backslash], fun control => Nat.not_lt.mpr printable control.2⟩

/-- Digits in base sixteen are passed over inside strings. -/
theorem inside_keeps_of_hexValue? {digit : Char} {value : Nat}
    (read : hexValue? digit = some value) : Region.inside.Keeps digit := by
  -- Neither the quote nor the backslash is a digit.
  refine Region.inside_keeps ?_ ?_ ?_
  · rintro rfl
    have none : hexValue? '"' = none := rfl
    simp [none] at read
  · rintro rfl
    have none : hexValue? '\\' = none := rfl
    simp [none] at read
  · -- All digits lie behind the zero.
    have zero : '0' ≤ digit := by
      unfold hexValue? at read
      split at read
      · rename_i decimal
        simp only [Char.isDigit, Bool.and_eq_true, decide_eq_true_eq] at decimal
        exact decimal.1
      · split at read
        · rename_i lower
          exact Char.le_trans (by decide) lower.1
        · split at read
          · rename_i upper
            exact Char.le_trans (by decide) upper.1
          · cases read
    exact Nat.le_trans (by decide) zero

/-- The digits of a unit are passed over inside strings. -/
theorem inside_keeps_of_unitOf? {digits : List Char} {unit : Nat}
    (made : unitOf? digits = some unit) : ∀ digit ∈ digits, Region.inside.Keeps digit := by
  -- A unit is made of exactly four digits.
  unfold unitOf? at made
  split at made
  · simp only [Option.bind_eq_bind, Option.bind_eq_some_iff] at made
    obtain ⟨_, first, _, second, _, third, _, fourth, _⟩ := made
    simp [inside_keeps_of_hexValue? first, inside_keeps_of_hexValue? second,
      inside_keeps_of_hexValue? third, inside_keeps_of_hexValue? fourth]
  · cases made

/-- Missing digits are no control characters. -/
theorem readUnit_cause {text : List Char} {fault : Fault} (failed : readUnit text = .error fault) :
    fault.cause ≠ .controlCharacter := by
  -- A unit fails for its digits, never for a character that has to be escaped.
  unfold readUnit at failed
  split at failed
  · cases failed
  · split at failed <;> cases failed <;> simp

/-- The digits of an escape are read alike. -/
theorem readUnit_mirrors (text : List Char) :
    Mirrors rules (.behind Nat .inside) .inside text (readUnit text)
      (readUnit (escapeFrom .inside text)) := by
  -- Four digits in the escaped text were the same four in the text itself.
  refine .of_iff (fun result read => ?_) (fun other read => ?_) fun _ => readUnit_cause
  · obtain ⟨unit, rest⟩ := result
    obtain ⟨digits, rfl, made⟩ := readUnit_eq_ok_iff.mp read
    have keeps := inside_keeps_of_unitOf? made
    rw [read, escapeFrom_append keeps]
    exact ⟨readUnit_eq_ok_iff.mpr ⟨digits, rfl, made⟩, .skip (.here rfl rfl) keeps⟩
  · obtain ⟨unit, rest⟩ := other
    obtain ⟨digits, split, made⟩ := readUnit_eq_ok_iff.mp read
    obtain ⟨rest, rfl, _⟩ := (escapeFrom_eq_append_iff (inside_keeps_of_unitOf? made)).mp split
    exact ⟨(unit, rest), readUnit_eq_ok_iff.mpr ⟨digits, rfl, made⟩⟩

/-- Only the digits of a trailing surrogate after a second backslash complete a pair. -/
theorem readTrailing_eq_ok_iff {leading : Nat} {text : List Char} {result : Char × List Char} :
    readTrailing leading text = .ok result ↔
      ∃ tail unit, text = '\\' :: 'u' :: tail ∧ readUnit tail = .ok (unit, result.2) ∧
        isTrailingSurrogate unit = true ∧ result.1 = pairedCharacter leading unit := by
  -- Only a backslash and the letter in front of four digits can begin the second half.
  unfold readTrailing
  split
  · rename_i tail
    simp only [bind_eq_ok_iff, Prod.exists]
    constructor
    · -- The unit that was read is accepted if it is the second half of a pair.
      intro read
      obtain ⟨unit, rest, digits, made⟩ := read
      split at made
      · rename_i trailing
        simp only [pure_eq_ok_iff] at made
        subst made
        exact ⟨tail, unit, rfl, digits, trailing, by dsimp only⟩
      · cases made
    · intro read
      obtain ⟨_, unit, same, digits, trailing, paired⟩ := read
      cases same
      exact ⟨unit, result.2, digits, by rw [if_pos trailing, ← paired]; rfl⟩
  · simp_all
  · simp_all

/-- A control character is escaped as what is read as that character. -/
theorem readEscape_controlEscape {character : Char} (control : character.toNat < 0x20)
    (rest : List Char) :
    ∃ tail, controlEscape character ++ rest = '\\' :: tail ∧
      readEscape tail = .ok (character, rest) := by
  -- An inserted escape is what the compact style writes for the character.
  rw [controlEscape_eq_stringChar .compact control]
  exact ((stringChar_cases .compact character).resolve_left fun plain =>
    Nat.not_lt.mpr plain.2.2.2 control) rest

/-- A missing second half is no control character. -/
theorem readTrailing_cause {leading : Nat} {text : List Char} {fault : Fault}
    (failed : readTrailing leading text = .error fault) : fault.cause ≠ .controlCharacter := by
  -- The second half is missing, or its digits are wrong, or it is the half of no pair.
  unfold readTrailing at failed
  split at failed
  · rcases bind_eq_error_iff.mp failed with digits | ⟨⟨unit, rest⟩, _, lone⟩
    · exact readUnit_cause digits
    · dsimp only at lone
      split at lone
      · cases lone
      · cases lone
        simp
  · split at failed <;> cases failed <;> simp
  · split at failed <;> cases failed <;> simp

/-- The second half of a surrogate pair is read alike. -/
theorem readTrailing_mirrors (leading : Nat) (text : List Char) :
    Mirrors rules (.behind Char .inside) .inside text (readTrailing leading text)
      (readTrailing leading (escapeFrom .inside text)) := by
  -- Where no escape with digits begins, both have to fail, though strict reading may come upon the
  -- escape of a control character.
  by_cases begins : ∃ tail, text = '\\' :: 'u' :: tail
  · obtain ⟨tail, rfl⟩ := begins
    rw [escapeFrom_inside_backslash, escapeFrom_escaping_cons]
    refine .step (.step ((readUnit_mirrors tail).bind fun result _ => ?_) (by simp)) (by decide)
    obtain ⟨unit, rest⟩ := result
    dsimp only [Resumption.escaped, Resumption.behind]
    generalize pairedCharacter leading unit = character
    split
    · exact .here rfl rfl
    · exact .fails (by simp)
  · refine .of_iff (fun result read => ?_) (fun other read => ?_) fun _ => readTrailing_cause
    · obtain ⟨tail, _, split, _⟩ := readTrailing_eq_ok_iff.mp read
      exact absurd ⟨tail, split⟩ begins
    · -- The escape of a control character has no digits of a trailing surrogate.
      obtain ⟨tail, unit, split, digits, trailing, _⟩ := readTrailing_eq_ok_iff.mp read
      cases text with
      | nil => cases split
      | cons character rest =>
        by_cases control : character.toNat < 0x20
        · -- That escape would be read as the control character and not as half of a pair.
          rw [escapeFrom_control control] at split
          obtain ⟨escape, written, single⟩ :=
            readEscape_controlEscape control (escapeFrom .inside rest)
          obtain rfl : 'u' :: tail = escape := by simpa [written] using split.symm
          simp [readEscape, readUnicodeEscape, digits, trailing, Bind.bind, Except.bind, throw,
            throwThe, MonadExceptOf.throw] at single
        · rw [escapeFrom_cons (by simp [control])] at split
          obtain ⟨rfl, behind⟩ := List.cons.inj split
          cases rest with
          | nil => cases behind
          | cons letter rest =>
            rw [Region.after, if_pos rfl, escapeFrom_escaping_cons] at behind
            obtain ⟨rfl, _⟩ := List.cons.inj behind
            exact absurd ⟨rest, rfl⟩ begins

/-- Escapes with digits are read alike. -/
theorem readUnicodeEscape_mirrors (text : List Char) :
    Mirrors rules (.behind Char .inside) .inside text (readUnicodeEscape text)
      (readUnicodeEscape (escapeFrom .inside text)) := by
  -- The unit decides how it goes on, and it is the same on both sides.
  unfold readUnicodeEscape
  refine (readUnit_mirrors text).bind fun result _ => ?_
  obtain ⟨unit, rest⟩ := result
  dsimp only [Resumption.escaped, Resumption.behind]
  split
  · -- The second half of a pair does not stand alone.
    exact .fails (by simp)
  · split
    · -- The first half needs the second one behind it.
      exact readTrailing_mirrors unit rest
    · exact .here rfl rfl

/-- A short escape is a letter. -/
theorem readEscape_letter {letter : Char} (short : letter ≠ 'u') (rest : List Char) :
    readEscape (letter :: rest) =
      match shortEscaped? letter with
      | some character => .ok (character, rest)
      | none => .error (.at .invalidEscape (letter :: rest)) := by
  unfold readEscape
  grind

/-- Escape sequences are read alike. -/
theorem readEscape_mirrors (text : List Char) :
    Mirrors rules (.behind Char .inside) .escaping text (readEscape text)
      (readEscape (escapeFrom .escaping text)) := by
  -- The character behind the backslash is never escaped, so both readers see the same letter.
  cases text with
  | nil => exact .fails (by simp)
  | cons letter rest =>
    rw [escapeFrom_escaping_cons]
    by_cases long : letter = 'u'
    · subst long
      exact .step (readUnicodeEscape_mirrors rest) (by simp)
    · rw [readEscape_letter long, readEscape_letter long]
      refine .step ?_ (by simp)
      split
      · exact .here rfl rfl
      · exact .fails (by simp)

/-! ## Strings -/

/-- Strings that go on alike are read alike. -/
theorem Mirrors.followedBy {text : List Char} {left right : Except Fault (List Char × List Char)}
    (character : Char)
    (mirrors : Mirrors rules (.behind (List Char) .outside) .inside text left right) :
    Mirrors rules (.behind (List Char) .outside) .inside text (Json.followedBy character left)
      (Json.followedBy character right) :=
  mirrors.bind fun _ _ => .here rfl rfl

/-- The characters of strings are read alike. -/
theorem readStringChars_mirrors (rules : Rules) (text : List Char) :
    Mirrors rules (.behind (List Char) .outside) .inside text (readStringChars rules text)
      (readStringChars .strict (escapeFrom .inside text)) := by
  -- What follows a character or an escape sequence is shorter.
  induction size : text.length using Nat.strong_induction_on generalizing text with
  | _ size ih =>
    subst size
    cases text with
    | nil =>
      simp only [escapeFrom_nil, readStringChars]
      exact .fails (by simp)
    | cons character rest =>
      by_cases quote : character = '"'
      · subst quote
        -- The quote ends the string on both sides.
        rw [escapeFrom_inside_quote, readStringChars_quote, readStringChars_quote]
        exact .step (.here rfl rfl) (by decide)
      by_cases backslash : character = '\\'
      · subst backslash
        rw [escapeFrom_inside_backslash, readStringChars_backslash, readStringChars_backslash]
        -- An escape sequence of the text is kept as it is.
        refine .step ((readEscape_mirrors rest).bind fun result read => ?_) (by decide)
        have shorter := readEscape_length read
        exact .followedBy _ (ih _ (Nat.lt_succ_of_le shorter) _ rfl)
      · have later := ih rest.length (Nat.lt_succ_self _) rest rfl
        rw [readStringChars_cons quote backslash]
        split
        · -- The text itself is refused here, but its escaped form may be read.
          rename_i refused
          exact .refuses refused.1
        · rename_i allowed
          by_cases control : character.toNat < 0x20
          · -- What lenient reading lets stand for itself is escaped for strict reading.
            have lenient : rules ≠ .strict := fun strict => allowed ⟨strict, control⟩
            rw [escapeFrom_control control, controlEscape_eq_stringChar .compact control,
              readStringChars_stringChar]
            exact (later.followedBy character).since (Nat.le_succ _) fun strict =>
              absurd strict lenient
          · have keeps := Region.inside_keeps quote backslash (Nat.not_lt.mp control)
            rw [escapeFrom_cons keeps.2, keeps.1, readStringChars_cons quote backslash,
              if_neg fun refused => control refused.2]
            refine .step ?_ keeps.2
            rw [keeps.1]
            exact later.followedBy character

/-- Strings are read alike. -/
theorem readString_mirrors (rules : Rules) (text : List Char) :
    Mirrors rules (.behind String .outside) .inside text (readString rules text)
      (readString .strict (escapeFrom .inside text)) :=
  (readStringChars_mirrors rules text).bind fun _ _ => .here rfl rfl

/-! ## Values -/

/-- What reads the members of a sequence does so alike. -/
def ItemsMirror (rules : Rules)
    (items other : Nat → ListNext → Except Fault (List Value × List Char)) : Prop :=
  ∀ depth next, Mirrors rules (.behind (List Value) .outside)
    (Resumption.listNext.region next) (Resumption.listNext.rest next) (items depth next)
    (other depth (Resumption.listNext.escaped next))

/-- What reads the bindings of a map does so alike. -/
def BindingsMirror (rules : Rules)
    (bindings other : Nat → ObjectNext → Except Fault (List (String × Value) × List Char)) :
    Prop :=
  ∀ depth next, Mirrors rules (.behind (List (String × Value)) .outside)
    (Resumption.objectNext.region next) (Resumption.objectNext.rest next) (bindings depth next)
    (other depth (Resumption.objectNext.escaped next))

/-- A value is read alike if its parts are. -/
theorem valueFrom_mirrors {items otherItems} {bindings otherBindings}
    (sequences : ItemsMirror rules items otherItems)
    (maps : BindingsMirror rules bindings otherBindings) (depth : Nat) (first : Char)
    (rest : List Char) :
    Mirrors rules (.behind Value .outside) .outside (first :: rest)
      (valueFrom rules items bindings depth first rest)
      (valueFrom .strict otherItems otherBindings depth first
        (escapeFrom (Region.outside.after first) rest)) := by
  -- The first character decides on both sides, and none of those that begin a value is escaped.
  unfold valueFrom
  refine .ite (fun null => ?_) fun _ => .ite (fun yes => ?_) fun _ => .ite (fun no => ?_) fun _ =>
    .ite (fun quote => ?_) fun _ => .ite (fun minus => ?_) fun _ => .ite (fun bracket => ?_)
      fun _ => .ite (fun brace => ?_) fun _ => .ite (fun digit => ?_) fun _ => .fails (by simp)
  · subst null
    exact .cons ((readWord_mirrors (by decide) rest).bind fun _ _ => .here rfl rfl)
  · subst yes
    exact .cons ((readWord_mirrors (by decide) rest).bind fun _ _ => .here rfl rfl)
  · subst no
    exact .cons ((readWord_mirrors (by decide) rest).bind fun _ _ => .here rfl rfl)
  · subst quote
    exact .cons ((readString_mirrors rules rest).bind fun _ _ => .here rfl rfl)
  · subst minus
    exact .cons ((readNumeral_mirrors true rest).bind fun _ _ => .here rfl rfl)
  · -- Where no level is left, both refuse the bracket whatever stands behind it.
    subst bracket
    cases depth with
    | zero => exact .fails (by simp)
    | succ depth =>
      have members := (firstMember_mirrors rest).bind fun next _ => sequences depth next
      exact .cons (members.bind fun _ _ => .here rfl rfl)
  · subst brace
    cases depth with
    | zero => exact .fails (by simp)
    | succ depth =>
      have entries := (firstKey_mirrors rest).bind fun next _ => maps depth next
      exact .cons (entries.bind fun _ _ => .here rfl rfl)
  · -- The digit is part of the number.
    rw [← escapeFrom_outside_cons]
    exact (readNumeral_mirrors false (first :: rest)).bind fun _ _ => .here rfl rfl

/-- With any number of steps, values, members and bindings are read alike. -/
theorem readers_mirror (rules : Rules) (steps : Nat) :
    (∀ depth text, Mirrors rules (.behind Value .outside) .outside text
        (readValue rules steps depth text)
        (readValue .strict steps depth (escapeFrom .outside text))) ∧
      ItemsMirror rules (readItems rules steps) (readItems .strict steps) ∧
      BindingsMirror rules (readBindings rules steps) (readBindings .strict steps) := by
  -- Each reader leaves its parts to readers with fewer steps.
  induction steps with
  | zero =>
    refine ⟨fun depth text => ?_, fun depth next => ?_, fun depth next => ?_⟩
    · exact .fails (by simp)
    · cases next with
      | member text => exact .fails (by simp)
      | finished rest => exact .here rfl rfl
    · cases next with
      | key text => exact .fails (by simp)
      | finished rest => exact .here rfl rfl
  | succ steps ih =>
    obtain ⟨values, items, bindings⟩ := ih
    refine ⟨fun depth text => ?_, fun depth next => ?_, fun depth next => ?_⟩
    · rw [readValue_eq, readValue_eq, skipSpacing_escapeFrom]
      exact .skipSpacing (.front (by simp) (valueFrom_mirrors items bindings depth) _)
    · cases next with
      | member text =>
        refine (values depth text).bind fun item _ => ?_
        have others := (nextMember_mirrors item.2).bind fun next _ => items depth next
        exact others.bind fun _ _ => .here rfl rfl
      | finished rest => exact .here rfl rfl
    · cases next with
      | key text =>
        -- The key is read, its colon, its value, and then the other bindings.
        refine (readString_mirrors rules text).bind fun key _ => ?_
        refine (readColon_mirrors key.2).bind fun rest _ => ?_
        refine (values depth rest).bind fun value _ => ?_
        have others := (nextKey_mirrors value.2).bind fun next _ => bindings depth next
        exact others.bind fun _ _ => .here rfl rfl
      | finished rest => exact .here rfl rfl

end PayloadTemplate.Json
