import PayloadTemplate.Json.Controls

/-! What the escaping of control characters does to a text, character by character. -/

namespace PayloadTemplate.Json

variable {region : Region} {character : Char} {text rest : List Char}

@[simp] theorem escapeFrom_nil (region : Region) : escapeFrom region [] = [] := rfl

/-- A character that is no control character inside a string stays as it is. -/
theorem escapeFrom_cons (kept : ¬(region = .inside ∧ character.toNat < 0x20)) :
    escapeFrom region (character :: rest) =
      character :: escapeFrom (region.after character) rest :=
  if_neg kept

/-- A control character inside a string is escaped. -/
theorem escapeFrom_control (control : character.toNat < 0x20) :
    escapeFrom .inside (character :: rest) = controlEscape character ++ escapeFrom .inside rest :=
  if_pos ⟨rfl, control⟩

/-- Outside strings every character stays as it is. -/
@[simp] theorem escapeFrom_outside_cons (character : Char) (rest : List Char) :
    escapeFrom .outside (character :: rest) =
      character :: escapeFrom (Region.outside.after character) rest :=
  escapeFrom_cons (by simp)

/-- After a backslash every character stays as it is. -/
@[simp] theorem escapeFrom_escaping_cons (character : Char) (rest : List Char) :
    escapeFrom .escaping (character :: rest) = character :: escapeFrom .inside rest :=
  escapeFrom_cons (by simp)

/-- A backslash inside a string begins an escape sequence. -/
@[simp] theorem escapeFrom_inside_backslash (rest : List Char) :
    escapeFrom .inside ('\\' :: rest) = '\\' :: escapeFrom .escaping rest :=
  escapeFrom_cons (by decide)

/-- A quote ends a string. -/
@[simp] theorem escapeFrom_inside_quote (rest : List Char) :
    escapeFrom .inside ('"' :: rest) = '"' :: escapeFrom .outside rest :=
  escapeFrom_cons (by decide)

/-- Only a quote begins a string. -/
theorem Region.outside_after (quote : character ≠ '"') :
    Region.outside.after character = .outside :=
  if_neg quote

/-- Every escape begins with a backslash. -/
theorem exists_controlEscape_eq (character : Char) :
    ∃ tail, controlEscape character = '\\' :: tail := by
  -- Short or long, an escape begins with its backslash.
  unfold controlEscape
  split
  · exact ⟨_, rfl⟩
  · exact ⟨_, rfl⟩

/-- The character is left as it is and leaves the scanner in its region. -/
def Region.Keeps (region : Region) (character : Char) : Prop :=
  region.after character = region ∧ ¬(region = .inside ∧ character.toNat < 0x20)

/-- Outside strings all characters but quotes are passed over. -/
theorem Region.outside_keeps (quote : character ≠ '"') : Region.outside.Keeps character :=
  ⟨Region.outside_after quote, by simp⟩

/-- A character that is passed over comes from itself alone. -/
theorem escapeFrom_eq_cons_iff {other : List Char} (keeps : region.Keeps character) :
    escapeFrom region text = character :: other ↔
      ∃ rest, text = character :: rest ∧ escapeFrom region rest = other := by
  constructor
  · intro same
    cases text with
    | nil => cases same
    | cons first rest =>
      by_cases control : region = .inside ∧ first.toNat < 0x20
      · -- An escape begins with a backslash, behind which the scanner is elsewhere.
        obtain ⟨rfl, below⟩ := control
        obtain ⟨tail, written⟩ := exists_controlEscape_eq first
        rw [escapeFrom_control below, written] at same
        obtain rfl := (List.cons.inj same).1
        cases keeps.1
      · rw [escapeFrom_cons control] at same
        obtain ⟨rfl, rfl⟩ := List.cons.inj same
        exact ⟨rest, rfl, by rw [keeps.1]⟩
  · intro same
    obtain ⟨rest, rfl, rfl⟩ := same
    rw [escapeFrom_cons keeps.2, keeps.1]

/-- A run of characters that are passed over comes from itself alone. -/
theorem escapeFrom_eq_append_iff {run other : List Char}
    (keeps : ∀ character ∈ run, region.Keeps character) :
    escapeFrom region text = run ++ other ↔
      ∃ rest, text = run ++ rest ∧ escapeFrom region rest = other := by
  -- The characters of the run are taken off one by one, and the scanner stays in its region.
  induction run generalizing text with
  | nil => simp
  | cons character run ih =>
    simp only [List.forall_mem_cons] at keeps
    rw [List.cons_append, escapeFrom_eq_cons_iff keeps.1]
    constructor
    · intro same
      obtain ⟨later, rfl, behind⟩ := same
      obtain ⟨rest, rfl, escaped⟩ := (ih keeps.2).mp behind
      exact ⟨rest, rfl, escaped⟩
    · intro same
      obtain ⟨rest, rfl, escaped⟩ := same
      exact ⟨run ++ rest, rfl, (ih keeps.2).mpr ⟨rest, rfl, escaped⟩⟩

/-- Escaping goes on after a run of characters that are passed over. -/
theorem escapeFrom_append {run : List Char} (keeps : ∀ character ∈ run, region.Keeps character)
    (rest : List Char) : escapeFrom region (run ++ rest) = run ++ escapeFrom region rest :=
  (escapeFrom_eq_append_iff keeps).mpr ⟨rest, rfl, rfl⟩

/-- A text without control characters stays as it is, wherever the scanner starts. -/
theorem escapeFrom_eq_self (region : Region)
    (printable : ∀ character ∈ text, 0x20 ≤ character.toNat) : escapeFrom region text = text := by
  -- None of the characters is a control character, so the first case of the scan never applies.
  induction text generalizing region with
  | nil => rfl
  | cons character rest ih =>
    simp only [List.forall_mem_cons] at printable
    rw [escapeFrom_cons fun control => Nat.not_lt.mpr printable.1 control.2, ih _ printable.2]

/-- The scan leaves a text without control characters as it is. -/
theorem escapeFrom_eq_self_of_not_any (none : text.any isControl = false) :
    escapeFrom region text = text := by
  -- The characters below the blank are among the control characters.
  refine escapeFrom_eq_self region fun character member => Nat.le_of_not_lt fun control => ?_
  exact List.any_eq_false.mp none character member (by simp [isControl, control])

/-- The characters of an escaped text; those without control characters need no scan. -/
theorem escapeControls_toList (text : String) :
    (escapeControls text).toList = escapeFrom .outside text.toList := by
  -- Without control characters the text is left alone, which the scan would do as well.
  unfold escapeControls
  split
  · exact String.toList_ofList
  · rename_i none
    exact (escapeFrom_eq_self_of_not_any (Bool.eq_false_iff.mpr none)).symm

/-- The escape of a control character is what a string with that character is written with. -/
theorem controlEscape_eq_stringChar (style : Style) (control : character.toNat < 0x20) :
    controlEscape character = stringChar style character := by
  -- Both look for a short escape first, and below the blank both write digits.
  unfold controlEscape stringChar
  cases shortEscape? character with
  | some letter => rfl
  | none => exact (if_pos control).symm

/-! ## Strings whose text is not escaped yet -/

/-- A character that can stand between quotes: it neither ends the string nor begins an escape. -/
def Quotable (character : Char) : Prop :=
  character ≠ '"' ∧ character ≠ '\\'

variable {style : Style}

/-- Where characters beyond ASCII are not escaped, a string holds printable characters as they
are. -/
theorem stringChar_of_printable (unicode : style.asciiOnly = false) (quotable : Quotable character)
    (printable : 0x20 ≤ character.toNat) : stringChar style character = [character] := by
  -- The short escapes are those of the quote, the backslash and some control characters.
  have long : shortEscape? character = none := by
    unfold shortEscape?
    split
    · exact absurd rfl quotable.1
    · exact absurd rfl quotable.2
    all_goals first | rfl | exact absurd printable (by decide)
  rw [stringChar, long]
  simp [Nat.not_lt.mpr printable, unicode]

/-- Escaping writes each character inside a string as the writer would. -/
theorem escapeFrom_inside_cons (unicode : style.asciiOnly = false) (quotable : Quotable character)
    (rest : List Char) :
    escapeFrom .inside (character :: rest) =
      stringChar style character ++ escapeFrom .inside rest := by
  -- Control characters are escaped alike, and all others are written as they are.
  by_cases control : character.toNat < 0x20
  · rw [escapeFrom_control control, controlEscape_eq_stringChar style control]
  · have inside : Region.inside.after character = .inside := by
      rw [Region.after, if_neg quotable.2, if_neg quotable.1]
    rw [stringChar_of_printable unicode quotable (Nat.not_lt.mp control),
      escapeFrom_cons fun both => control both.2, inside, List.singleton_append]

/-- The characters of a string are written one after the other, up to the closing quote. -/
theorem escapeFrom_inside_append (unicode : style.asciiOnly = false)
    (quotable : ∀ character ∈ text, Quotable character) (rest : List Char) :
    escapeFrom .inside (text ++ '"' :: rest) =
      text.flatMap (stringChar style) ++ '"' :: escapeFrom .outside rest := by
  -- Each character is escaped or kept as the style writes it, and the quote ends the string.
  induction text with
  | nil => exact escapeFrom_inside_quote rest
  | cons character later ih =>
    rw [List.forall_mem_cons] at quotable
    rw [List.cons_append, escapeFrom_inside_cons unicode quotable.1, ih quotable.2,
      List.flatMap_cons, List.append_assoc]

/-- A text between quotes becomes the string with that text, and the scanner leaves it again. -/
theorem escapeFrom_quoted (unicode : style.asciiOnly = false) {quoted : String}
    (quotable : ∀ character ∈ quoted.toList, Quotable character) (rest : List Char) :
    escapeFrom .outside ('"' :: (quoted.toList ++ '"' :: rest)) =
      stringChars style quoted ++ escapeFrom .outside rest := by
  -- The opening quote leads into the string, and the closing one out of it.
  have opened : Region.outside.after '"' = .inside := rfl
  rw [escapeFrom_outside_cons, opened, escapeFrom_inside_append unicode quotable, stringChars]
  simp only [List.cons_append, List.append_assoc, List.nil_append]

end PayloadTemplate.Json
