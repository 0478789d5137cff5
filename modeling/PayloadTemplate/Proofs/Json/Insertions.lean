import Mathlib.Algebra.Group.Nat.Even
import Mathlib.Data.List.DropRight
import PayloadTemplate.Proofs.Json.MirroredValues

/-!
An escaped text has no control characters left to escape, so that escaping it once more changes
nothing.  The text itself comes back when each inserted escape gives way to the character that it
stands for.
-/

namespace PayloadTemplate.Json

variable {region : Region} {character : Char} {text rest : List Char}

/-! ## Where the scanner stands -/

/-- Where the scanner stands after a run of characters. -/
def Region.over (region : Region) (run : List Char) : Region :=
  run.foldl Region.after region

@[simp] theorem Region.over_nil (region : Region) : region.over [] = region := rfl

@[simp] theorem Region.over_cons (region : Region) (character : Char) (rest : List Char) :
    region.over (character :: rest) = (region.after character).over rest := rfl

@[simp] theorem Region.over_append (region : Region) (run rest : List Char) :
    region.over (run ++ rest) = (region.over run).over rest :=
  List.foldl_append

/-- A run of characters that are passed over leaves the scanner in its region. -/
theorem Region.over_of_keeps {run : List Char}
    (keeps : ∀ character ∈ run, region.Keeps character) : region.over run = region := by
  -- The region is the same behind each of the characters.
  induction run with
  | nil => rfl
  | cons character run ih =>
    rw [List.forall_mem_cons] at keeps
    rw [Region.over_cons, keeps.1.1, ih keeps.2]

/-- Only a backslash inside a string starts an escape. -/
theorem Region.after_eq_escaping_iff :
    region.after character = .escaping ↔ region = .inside ∧ character = '\\' := by
  -- Only a backslash inside of a string leads there.
  cases region with
  | outside => by_cases quote : character = '"' <;> simp [Region.after, quote]
  | inside =>
    by_cases backslash : character = '\\'
    · simp [Region.after, backslash]
    · by_cases quote : character = '"' <;> simp [Region.after, backslash, quote]
  | escaping => simp [Region.after]

/-- A backslash stays inside a string only when it is escaped itself. -/
theorem Region.after_backslash_eq_inside_iff :
    region.after '\\' = .inside ↔ region = .escaping := by
  cases region <;> decide

/-- How many backslashes stand at the end of a text. -/
def closingBackslashes (text : List Char) : Nat :=
  (text.rtakeWhile (· == '\\')).length

theorem closingBackslashes_backslash (text : List Char) :
    closingBackslashes (text ++ ['\\']) = closingBackslashes text + 1 := by
  simp [closingBackslashes]

theorem closingBackslashes_other (other : character ≠ '\\') (text : List Char) :
    closingBackslashes (text ++ [character]) = 0 := by
  simp [closingBackslashes, List.rtakeWhile_concat_neg, other]

/-- A text ends with a backslash that is not paired with the one in front of it. -/
def EndsUnpaired (text : List Char) : Prop :=
  Odd (closingBackslashes text)

instance (text : List Char) : Decidable (EndsUnpaired text) :=
  inferInstanceAs (Decidable (Odd _))

/-- Inside a string the backslashes behind the scanner are paired, and directly after a backslash
that starts an escape one of them is not. -/
theorem closingBackslashes_parity (text : List Char) :
    (Region.outside.over text = .inside → Even (closingBackslashes text)) ∧
      (Region.outside.over text = .escaping → EndsUnpaired text) := by
  -- The last character decides, with the region in front of it.
  induction text using List.reverseRecOn with
  | nil => simp
  | append_singleton before character ih =>
    rw [Region.over_append, Region.over_cons, Region.over_nil, EndsUnpaired]
    by_cases backslash : character = '\\'
    · subst backslash
      rw [closingBackslashes_backslash, Nat.even_add_one, Nat.odd_add_one, Nat.not_even_iff_odd,
        Nat.not_odd_iff_even]
      exact ⟨fun inside => ih.2 (Region.after_backslash_eq_inside_iff.mp inside),
        fun escaping => ih.1 (Region.after_eq_escaping_iff.mp escaping).1⟩
    · rw [closingBackslashes_other backslash]
      exact ⟨fun _ => Even.zero,
        fun escaping => absurd (Region.after_eq_escaping_iff.mp escaping).2 backslash⟩

example : EndsUnpaired ['"', '\\', '\\', '\\'] ∧ ¬EndsUnpaired ['"', '\\', '\\'] := by decide

/-! ## Nothing left to escape -/

/-- The scanner passes over a text and escapes nothing: no control character stands inside a
string, unless a backslash stands before it. -/
def Region.Passes (region : Region) (text : List Char) : Prop :=
  ∀ before character rest, text = before ++ character :: rest → character.toNat < 0x20 →
    region.over before ≠ .inside

theorem Region.passes_nil (region : Region) : region.Passes [] := by
  intro before character rest split
  simp at split

/-- A text is passed over when its first character is, and then the others from there on. -/
theorem Region.passes_cons_iff :
    region.Passes (character :: rest) ↔
      ¬(region = .inside ∧ character.toNat < 0x20) ∧ (region.after character).Passes rest := by
  -- The control character is the first one, or it stands behind the first one.
  constructor
  · intro passes
    refine ⟨fun both => passes [] character rest rfl both.2 both.1, ?_⟩
    intro before other behind split control
    exact passes (character :: before) other behind (by rw [split]; rfl) control
  · intro passes before other behind split control
    cases before with
    | nil =>
      obtain ⟨rfl, _⟩ := List.cons.inj split
      exact fun inside => passes.1 ⟨inside, control⟩
    | cons first before =>
      obtain ⟨rfl, later⟩ := List.cons.inj split
      exact passes.2 before other behind later control

/-- One run of characters after the other. -/
theorem Region.passes_append_iff {run : List Char} :
    region.Passes (run ++ rest) ↔ region.Passes run ∧ (region.over run).Passes rest := by
  -- The run is passed character by character, and the rest stands where the run has led.
  induction run generalizing region with
  | nil => simp [Region.passes_nil]
  | cons character run ih =>
    rw [List.cons_append, Region.passes_cons_iff, Region.passes_cons_iff, ih, Region.over_cons,
      and_assoc]

/-- Characters that are passed over one by one are passed over together. -/
theorem Region.passes_of_keeps {run : List Char}
    (keeps : ∀ character ∈ run, region.Keeps character) : region.Passes run := by
  -- A character that keeps the region is none that has to be escaped.
  induction run with
  | nil => exact region.passes_nil
  | cons character run ih =>
    rw [List.forall_mem_cons] at keeps
    rw [Region.passes_cons_iff, keeps.1.1]
    exact ⟨keeps.1.2, ih keeps.2⟩

/-- The escape of a control character is a backslash with a letter, and digits if there is no short
escape. -/
theorem controlEscape_shape (control : character.toNat < 0x20) :
    ∃ letter digits, controlEscape character = '\\' :: letter :: digits ∧
      ∀ digit ∈ digits, Region.inside.Keeps digit := by
  -- A short escape has no digits, and a long one has four.
  unfold controlEscape
  split
  · rename_i letter _
    exact ⟨letter, [], rfl, by simp⟩
  · exact ⟨'u', _, rfl, inside_keeps_of_unitOf? (unitOf?_digits (by omega))⟩

/-- The escape of a control character is passed over, and behind it the scanner is inside the
string again. -/
theorem passes_controlEscape (control : character.toNat < 0x20) :
    Region.inside.Passes (controlEscape character) ∧
      Region.inside.over (controlEscape character) = .inside := by
  obtain ⟨letter, digits, written, keeps⟩ := controlEscape_shape control
  have backslash : Region.inside.after '\\' = .escaping := rfl
  have letterBehind : Region.escaping.after letter = .inside := rfl
  -- The backslash leads out of the string's plain part, and the letter back into it.
  rw [written, Region.over_cons, Region.over_cons, Region.passes_cons_iff, backslash,
    Region.passes_cons_iff, letterBehind]
  refine ⟨⟨by decide, by simp, Region.passes_of_keeps keeps⟩, Region.over_of_keeps keeps⟩

/-- An escape begins with a backslash, which is no control character. -/
theorem controlEscape_append_ne (control : character.toNat < 0x20) (rest other : List Char) :
    controlEscape character ++ rest ≠ character :: other := by
  -- The escape begins with a backslash, which is no control character.
  obtain ⟨tail, written⟩ := exists_controlEscape_eq character
  rw [written]
  intro same
  obtain rfl := (List.cons.inj same).1
  exact absurd control (by decide)

/-- Escaping changes nothing exactly when there is nothing to escape. -/
theorem escapeFrom_eq_self_iff : escapeFrom region text = text ↔ region.Passes text := by
  -- A text is changed at the first control character inside of a string.
  induction text generalizing region with
  | nil => simp [Region.passes_nil]
  | cons character rest ih =>
    rw [Region.passes_cons_iff]
    by_cases control : region = .inside ∧ character.toNat < 0x20
    · -- An escape in its place is never the same text.
      obtain ⟨rfl, control⟩ := control
      rw [escapeFrom_control control]
      simp [controlEscape_append_ne control, control]
    · rw [escapeFrom_cons control]
      simp [ih, control]

/-- In an escaped text there is nothing left to escape. -/
theorem passes_escapeFrom (region : Region) (text : List Char) :
    region.Passes (escapeFrom region text) := by
  induction text generalizing region with
  | nil => exact region.passes_nil
  | cons character rest ih =>
    by_cases control : region = .inside ∧ character.toNat < 0x20
    · -- Behind the escape the scanner is where it was in front of the character.
      obtain ⟨rfl, control⟩ := control
      obtain ⟨passes, back⟩ := passes_controlEscape control
      rw [escapeFrom_control control, Region.passes_append_iff, back]
      exact ⟨passes, ih .inside⟩
    · rw [escapeFrom_cons control]
      exact Region.passes_cons_iff.mpr ⟨control, ih _⟩

/-! ## The inserted escapes -/

/-- A piece of an escaped text. -/
inductive Piece where
  /-- A character of the text itself. -/
  | kept (character : Char)
  /-- An escape sequence that was inserted in the place of a character. -/
  | inserted (sequence : List Char)
  deriving DecidableEq, Repr

/-- The characters of a piece. -/
def Piece.written : Piece → List Char
  | .kept character => [character]
  | .inserted sequence => sequence

/-- The character that an escape sequence stands for when JSON is read. -/
def encoded? : List Char → Option Char
  | '\\' :: tail =>
    match readEscape tail with
    | .ok (character, []) => some character
    | _ => none
  | _ => none

/-- The character in whose place a piece stands. -/
def Piece.original? : Piece → Option Char
  | .kept character => some character
  | .inserted sequence => encoded? sequence

/-- The pieces that escaping makes of a text, one for each character. -/
def piecesFrom (region : Region) : List Char → List Piece
  | [] => []
  | character :: rest =>
    if region = .inside ∧ character.toNat < 0x20 then
      .inserted (controlEscape character) :: piecesFrom .inside rest
    else
      .kept character :: piecesFrom (region.after character) rest

/-- An escaped text is cut into pieces from which a text comes back. -/
structure Restores (pieces : List Piece) (escaped text : List Char) : Prop where
  /-- The pieces make up the escaped text. -/
  written : pieces.flatMap Piece.written = escaped
  /-- With the character that it stands for in the place of each inserted escape, they are the
  text. -/
  original : pieces.map Piece.original? = text.map some
  /-- Only control characters were escaped. -/
  controls : ∀ sequence, .inserted sequence ∈ pieces →
    ∃ character : Char, character.toNat < 0x20 ∧ sequence = controlEscape character

/-- The escape of a control character stands for that character. -/
theorem encoded?_controlEscape (control : character.toNat < 0x20) :
    encoded? (controlEscape character) = some character := by
  -- The escape is read back with nothing behind it.
  obtain ⟨tail, written, read⟩ := readEscape_controlEscape control []
  rw [List.append_nil] at written
  rw [written, encoded?, read]

namespace Restores

variable {pieces others : List Piece} {escaped : List Char}

theorem nil : Restores [] [] [] :=
  ⟨rfl, rfl, by simp⟩

/-- A character that is kept stands for itself. -/
theorem kept (restores : Restores pieces escaped text) (character : Char) :
    Restores (.kept character :: pieces) (character :: escaped) (character :: text) where
  written := by simp [Piece.written, restores.written]
  original := by simp [Piece.original?, restores.original]
  controls := by simpa using restores.controls

/-- An inserted escape stands for the control character that it was inserted for. -/
theorem inserted (restores : Restores pieces escaped text) (control : character.toNat < 0x20) :
    Restores (.inserted (controlEscape character) :: pieces) (controlEscape character ++ escaped)
      (character :: text) where
  written := by simp [Piece.written, restores.written]
  original := by simp [Piece.original?, encoded?_controlEscape control, restores.original]
  controls sequence member := by
    -- The new piece stands for the character it was made of.
    rcases List.mem_cons.mp member with same | member
    · exact ⟨character, control, Piece.inserted.inj same⟩
    · exact restores.controls sequence member

/-- Nothing comes back from no pieces only. -/
theorem eq_nil (restores : Restores pieces escaped []) : pieces = [] :=
  List.map_eq_nil_iff.mp restores.original

/-- The first character of a text comes back from a piece that keeps it or from its escape. -/
theorem cons_cases (restores : Restores pieces escaped (character :: text)) :
    (∃ others rest, Restores others rest text ∧ pieces = .kept character :: others ∧
        escaped = character :: rest) ∨
      character.toNat < 0x20 ∧ ∃ others rest, Restores others rest text ∧
        pieces = .inserted (controlEscape character) :: others ∧
        escaped = controlEscape character ++ rest := by
  -- The first piece is all that stands for the first character.
  obtain ⟨rfl, original, controls⟩ := restores
  cases pieces with
  | nil => cases original
  | cons piece others =>
    rw [List.map_cons, List.map_cons, List.cons.injEq] at original
    have behind : Restores others (others.flatMap Piece.written) text :=
      ⟨rfl, original.2, fun sequence member => controls sequence (.tail _ member)⟩
    cases piece with
    | kept first =>
      obtain rfl := Option.some.inj original.1
      exact .inl ⟨others, _, behind, rfl, rfl⟩
    | inserted sequence =>
      -- An inserted sequence is the escape of some character, and that one is read back from it.
      obtain ⟨other, control, rfl⟩ := controls sequence (.head _)
      have same : encoded? (controlEscape other) = some character := original.1
      rw [encoded?_controlEscape control, Option.some.injEq] at same
      subst same
      exact .inr ⟨control, others, _, behind, rfl, rfl⟩

/-- There is one way at most to get a text back from an escaped text. -/
theorem unique (restores : Restores pieces escaped text) (also : Restores others escaped text) :
    pieces = others := by
  -- Whether the first character was kept or escaped is seen from the escaped text.
  induction text generalizing pieces others escaped with
  | nil => rw [restores.eq_nil, also.eq_nil]
  | cons character text ih =>
    rcases restores.cons_cases with
      ⟨pieces, rest, behind, rfl, rfl⟩ | ⟨control, pieces, rest, behind, rfl, rfl⟩
    · rcases also.cons_cases with
        ⟨others, _, alsoBehind, rfl, same⟩ | ⟨control, others, other, _, _, same⟩
      · cases same
        rw [ih behind alsoBehind]
      · -- What is kept is not the beginning of its own escape.
        exact absurd same.symm (controlEscape_append_ne control other rest)
    · rcases also.cons_cases with
        ⟨others, other, _, _, same⟩ | ⟨_, others, other, alsoBehind, rfl, same⟩
      · exact absurd same (controlEscape_append_ne control rest other)
      · obtain rfl := List.append_cancel_left same
        rw [ih behind alsoBehind]

end Restores

/-- The pieces that escaping makes of a text bring the text back. -/
theorem restores_piecesFrom (region : Region) (text : List Char) :
    Restores (piecesFrom region text) (escapeFrom region text) text := by
  -- Each character becomes one piece, by the same test as in the escaping.
  induction text generalizing region with
  | nil => exact .nil
  | cons character rest ih =>
    rw [piecesFrom]
    split
    · rename_i control
      obtain ⟨rfl, control⟩ := control
      rw [escapeFrom_control control]
      exact (ih .inside).inserted control
    · rename_i kept
      rw [escapeFrom_cons kept]
      exact (ih _).kept character

/-! ## Escaping as a projection -/

/-- Escaping control characters is a projection.  Texts without control characters are not changed
by the scan, so that they need none, and neither are escaped texts.  A text comes back from its
escaped form in one way only, each inserted escape giving way to the character that it stands for.
The control characters that are left stand outside all strings or directly after a backslash that
is not escaped itself. -/
theorem escaping_controls_is_a_projection (text : String) :
    (text.toList.any isControl = false →
        String.ofList (escapeFrom .outside text.toList) = text) ∧
      escapeControls text = String.ofList (escapeFrom .outside text.toList) ∧
      escapeControls (escapeControls text) = escapeControls text ∧
      (∀ pieces, Restores pieces (escapeControls text).toList text.toList ↔
        pieces = piecesFrom .outside text.toList) ∧
      ∀ before character rest, (escapeControls text).toList = before ++ character :: rest →
        character.toNat < 0x20 →
          Region.outside.over before = .outside ∨
            Region.outside.over before = .escaping ∧ EndsUnpaired before := by
  have restores := restores_piecesFrom .outside text.toList
  have passes := passes_escapeFrom .outside text.toList
  rw [← escapeControls_toList] at restores passes
  -- All of it is about one run from outside of strings, and what it leaves has nothing to escape.
  refine ⟨fun none => ?_, ?_, ?_, fun pieces => ?_, ?_⟩
  · rw [escapeFrom_eq_self_of_not_any none, String.ofList_toList]
  · rw [← escapeControls_toList, String.ofList_toList]
  · -- The escaped text passes, so escaping it again changes nothing.
    refine String.toList_inj.mp ?_
    rw [escapeControls_toList, escapeFrom_eq_self_iff]
    exact passes
  · exact ⟨fun other => other.unique restores, fun same => same ▸ restores⟩
  · -- A control character that was left does not stand inside of a string.
    intro before character rest split control
    cases stands : Region.outside.over before with
    | outside => exact .inl rfl
    | inside => exact absurd stands (passes before character rest split control)
    | escaping => exact .inr ⟨rfl, (closingBackslashes_parity before).2 stands⟩

theorem escaping_controls_is_a_projection_lines :
    String.ofList (escapeFrom .outside "[\"\\n\"]".toList) = "[\"\\n\"]" ∧
      Restores
        [.kept '"', .inserted ['\\', 'n'], .kept '\\', .kept '\n', .kept '"', .kept '\n']
        (escapeControls "\"\n\\\n\"\n").toList "\"\n\\\n\"\n".toList ∧
      Region.outside.over ['"', '\\', 'n', '\\'] = .escaping ∧
      EndsUnpaired ['"', '\\', 'n', '\\'] := by
  have projection := escaping_controls_is_a_projection "\"\n\\\n\"\n"
  refine ⟨(escaping_controls_is_a_projection "[\"\\n\"]").1 (by decide),
    (projection.2.2.2.1 _).mpr (by decide), ?_⟩
  -- The second line break has a backslash in front of it and is left as it is.
  refine (projection.2.2.2.2 _ '\n' ['"', '\n'] ?_ (by decide)).resolve_left (by decide)
  rw [escapeControls_toList]
  decide

end PayloadTemplate.Json
