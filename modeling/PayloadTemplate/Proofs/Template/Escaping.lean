import PayloadTemplate.Proofs.Template.Parsing
import PayloadTemplate.Proofs.Template.Lexing

/-!
Escaping dollar signs.  A source with an escape sign before every dollar sign that needs one has
items that stand for the characters of the text and for nothing else.
-/

namespace PayloadTemplate.Template

/-! ## Which dollar signs need an escape -/

/-- Whether the dollar sign at a position would not stand for itself if it were left as it is. -/
def NeedsEscape (text : List Char) (position : Nat) : Prop :=
  text[position]? = some '$' ∧
    -- An escape sign in front would escape it; it would open a brace or a root behind it.
    (0 < position ∧ text[position - 1]? = some '\\' ∨
      text[position + 1]? = some '{' ∨
      ∃ root ∈ pathRoots, root <+: text.drop (position + 1))

instance (text : List Char) : DecidablePred (NeedsEscape text) := fun _ =>
  inferInstanceAs (Decidable (_ ∧ _))

/-- Puts an escape sign before each dollar sign at a chosen position. -/
def escapeSigns (chosen : Nat → Bool) : List Char → List Char
  | [] => []
  | character :: rest =>
    let later := escapeSigns (fun position => chosen (position + 1)) rest
    if character = '$' ∧ chosen 0 = true then '\\' :: '$' :: later else character :: later

/-- The tokens of a text with escaped dollar signs: escapes where they are chosen, and the other
characters. -/
def escapedTokens (chosen : Nat → Bool) : List Char → List Token
  | [] => []
  | character :: rest =>
    let later := escapedTokens (fun position => chosen (position + 1)) rest
    if character = '$' ∧ chosen 0 = true then .escaped "\\$" :: later
    else .text character :: later

/-- Where a dollar sign of the rest needs an escape, it needs one in the whole text. -/
theorem NeedsEscape.cons {text : List Char} {position : Nat} (needs : NeedsEscape text position)
    (character : Char) : NeedsEscape (character :: text) (position + 1) := by
  -- Everything that is looked at moves by one position.
  obtain ⟨sign, cause⟩ := needs
  refine ⟨sign, ?_⟩
  rcases cause with ⟨positive, escape⟩ | brace | root
  · obtain ⟨before, rfl⟩ := Nat.exists_eq_add_one.mpr positive
    exact .inl ⟨Nat.succ_pos _, escape⟩
  · exact .inr (.inl brace)
  · exact .inr (.inr root)

/-- Only the positions of a text need an escape. -/
theorem NeedsEscape.lt {text : List Char} {position : Nat} (needs : NeedsEscape text position) :
    position < text.length :=
  (List.getElem?_eq_some_iff.mp needs.1).1

/-- Without a chosen position, nothing is escaped. -/
theorem escapeSigns_none (text : List Char) : escapeSigns (fun _ => false) text = text := by
  -- Each character is kept, as none is chosen.
  induction text with
  | nil => rfl
  | cons character rest ih => simp [escapeSigns, ih]

/-- Escaping only adds characters. -/
theorem escapeSigns_ne_nil (chosen : Nat → Bool) {text : List Char} (nonempty : text ≠ []) :
    escapeSigns chosen text ≠ [] := by
  -- The first character stays, with or without a sign in front of it.
  cases text with
  | nil => exact absurd rfl nonempty
  | cons character rest =>
    rw [escapeSigns]
    split
    · exact List.cons_ne_nil _ _
    · exact List.cons_ne_nil _ _

/-! ## Scanning -/

section Scanning

variable {chosen : Nat → Bool} {text : List Char}

/-- An escaped text begins with an escape sign or as the text itself does. -/
theorem escapeSigns_head? (chosen : Nat → Bool) (text : List Char) :
    (escapeSigns chosen text).head? = text.head? ∨
      text.head? = some '$' ∧ (escapeSigns chosen text).head? = some '\\' := by
  -- Only a chosen dollar sign has something put before it.
  cases text with
  | nil => exact .inl rfl
  | cons character rest =>
    rw [escapeSigns]
    split
    · rename_i escaped
      exact .inr ⟨by rw [escaped.1]; rfl, rfl⟩
    · exact .inl rfl

/-- A word without escape signs that starts an escaped text starts the text itself. -/
theorem prefix_of_prefix_escapeSigns {word : List Char} (noSign : '\\' ∉ word)
    (starts : word <+: escapeSigns chosen text) : word <+: text := by
  -- The word and the text are compared letter by letter; an escape sign would be one of the word.
  induction text generalizing chosen word with
  | nil => exact starts
  | cons character rest ih =>
    cases word with
    | nil => exact List.nil_prefix
    | cons letter others =>
      rw [List.mem_cons, not_or] at noSign
      rw [escapeSigns] at starts
      split at starts
      · exact absurd (List.cons_prefix_cons.mp starts).1.symm noSign.1
      · obtain ⟨same, later⟩ := List.cons_prefix_cons.mp starts
        exact List.cons_prefix_cons.mpr ⟨same, ih noSign.2 later⟩

/-- A character that is not escaped stands for itself in front of the rest. -/
theorem plain_escapeSigns {character : Char} {rest : List Char}
    (covers : ∀ position, NeedsEscape (character :: rest) position → chosen position = true)
    (kept : ¬(character = '$' ∧ chosen 0 = true)) :
    Plain character (escapeSigns (fun position => chosen (position + 1)) rest) := by
  constructor
  · -- A dollar sign that is kept needs no escape, so neither a brace nor a root follows.
    rintro rfl
    have free : ¬NeedsEscape ('$' :: rest) 0 := fun needs => kept ⟨rfl, covers 0 needs⟩
    refine ⟨fun brace => ?_, path?_eq_none_iff.mpr fun root member starts => ?_⟩
    · rcases escapeSigns_head? _ rest with same | ⟨_, sign⟩
      · refine free ⟨rfl, .inr (.inl ?_)⟩
        rw [List.getElem?_cons_succ, ← List.head?_eq_getElem?, ← same]
        exact brace
      · rw [sign] at brace
        cases brace
    · -- No root has a sign in it, so it would stand in the text already.
      have noSign := (not_mem_root member).2
      exact free ⟨rfl, .inr (.inr ⟨root, member, prefix_of_prefix_escapeSigns noSign starts⟩)⟩
  · -- A dollar sign behind an escape sign of the text is escaped itself.
    rintro rfl dollar
    rcases escapeSigns_head? _ rest with same | ⟨_, sign⟩
    · have following : rest.head? = some '$' := same ▸ dollar
      have needs : NeedsEscape ('\\' :: rest) 1 := by
        refine ⟨?_, .inl ⟨Nat.one_pos, rfl⟩⟩
        rw [List.getElem?_cons_succ, ← List.head?_eq_getElem?, following]
      obtain ⟨others, rfl⟩ := List.head?_eq_some_iff.mp following
      simp [escapeSigns, covers 1 needs] at dollar
    · rw [sign] at dollar
      cases dollar

/-- An escaped text is scanned to escapes and to characters that stand for themselves. -/
theorem scans_escapeSigns
    (covers : ∀ position, NeedsEscape text position → chosen position = true) :
    Scans .literal none (escapeSigns chosen text) (escapedTokens chosen text) := by
  -- Each character of the text is one token, with or without an escape sign.
  induction text generalizing chosen with
  | nil => exact scans_nil_iff.mpr rfl
  | cons character rest ih =>
    have later : Scans .literal none (escapeSigns (fun position => chosen (position + 1)) rest)
        (escapedTokens (fun position => chosen (position + 1)) rest) :=
      ih fun position needs => covers (position + 1) (needs.cons character)
    rw [escapeSigns, escapedTokens]
    split
    · exact scans_cons_iff.mpr ⟨_, rfl, later.of_literal⟩
    · rename_i kept
      -- A sign that was left alone does not need an escape.
      have plain := plain_escapeSigns covers kept
      exact scans_cons_iff.mpr ⟨_, literalStep_eq_text_iff.mpr ⟨rfl, plain⟩, later.of_literal⟩

end Scanning

/-! ## Items that stand for characters -/

/-- Items that stand for the characters of a text, whatever is rendered. -/
inductive Literal : List Item → List Char → Prop where
  /-- No items stand for no characters. -/
  | nil : Literal [] []
  /-- A text stands for its characters. -/
  | text {content : String} {rest : List Item} {characters : List Char}
      (later : Literal rest characters) :
      Literal (.text content :: rest) (content.toList ++ characters)
  /-- An escape stands for one character. -/
  | escaped {character : Char} {rest : List Item} {characters : List Char}
      (later : Literal rest characters) :
      Literal (.escaped character :: rest) (character :: characters)

theorem Literal.text_characters {rest : List Item} {characters : List Char} (run : List Char)
    (later : Literal rest characters) :
    Literal (.text (String.ofList run) :: rest) (run ++ characters) := by
  -- Only the run has to be written as a list again.
  have literal : Literal (.text (String.ofList run) :: rest)
      ((String.ofList run).toList ++ characters) := .text later
  rwa [String.toList_ofList] at literal

theorem Spells.text_characters {rest : List Item} {tokens : List Token} (run : List Char)
    (later : Spells rest tokens) :
    Spells (.text (String.ofList run) :: rest) (run.map .text ++ tokens) := by
  -- As for the characters, with one token for each.
  have spells : Spells (.text (String.ofList run) :: rest)
      ((String.ofList run).toList.map .text ++ tokens) := .text later
  rwa [String.toList_ofList] at spells

/-- A character in front of literal items makes up a text of its own or begins the text there. -/
theorem Literal.push {items : List Item} {tokens : List Token} {characters : List Char}
    {enclosing : List Char} (character : Char) (literal : Literal items characters)
    (spells : Spells items tokens) (wellFormed : WellFormedItems enclosing items) :
    ∃ longer, Literal longer (character :: characters) ∧
      Spells longer (.text character :: tokens) ∧ WellFormedItems enclosing longer := by
  -- What the items begin with decides, because no text may follow a text.
  by_cases begins : startsWithText items = true
  · cases literal with
    | nil => cases begins
    | escaped later => cases begins
    | @text content rest characters later =>
      cases spells with
      | @text _ _ tokens spelled =>
        obtain ⟨_, separate, wellFormed⟩ := wellFormed
        refine ⟨.text (String.ofList (character :: content.toList)) :: rest, ?_, ?_, ?_⟩
        · exact .text_characters (character :: content.toList) later
        · exact .text_characters (character :: content.toList) spelled
        · exact ⟨by simp [Item.WellFormed], fun _ => separate rfl, wellFormed⟩
  · -- The character becomes a text of its own.
    refine ⟨.text (String.ofList [character]) :: items, ?_, ?_, ?_⟩
    · exact .text_characters [character] literal
    · exact .text_characters [character] spells
    · exact ⟨by simp [Item.WellFormed], fun _ => by simpa using begins, wellFormed⟩

/-- The tokens of an escaped text spell well-formed items that stand for the text. -/
theorem exists_literal_escapedTokens (chosen : Nat → Bool) (text : List Char) :
    ∃ items, Literal items text ∧ Spells items (escapedTokens chosen text) ∧
      WellFormedItems [] items := by
  -- From the end to the front, each token is put before the items of the later ones.
  induction text generalizing chosen with
  | nil => exact ⟨[], .nil, .nil, trivial⟩
  | cons character rest ih =>
    obtain ⟨items, literal, spells, wellFormed⟩ := ih fun position => chosen (position + 1)
    rw [escapedTokens]
    split
    · rename_i escaped
      rw [escaped.1]
      have separate : (Item.escaped '$').isText = true → startsWithText items = false := nofun
      exact ⟨.escaped '$' :: items, .escaped literal, .escaped rfl spells,
        trivial, separate, wellFormed⟩
    · exact literal.push character spells wellFormed

/-- A text that is not empty has items that stand for it once its dollar signs are escaped where
they need it. -/
theorem itemsOf_escapeSigns {chosen : Nat → Bool} {text : List Char} (nonempty : text ≠ [])
    (covers : ∀ position, NeedsEscape text position → chosen position = true) :
    ∃ items, itemsOf (String.ofList (escapeSigns chosen text)) = .ok items ∧
      Literal items text := by
  obtain ⟨items, literal, spells, wellFormed⟩ := exists_literal_escapedTokens chosen text
  -- Items that stand for at least one character are not empty.
  have filled : items ≠ [] := by
    rintro rfl
    cases literal
    exact nonempty rfl
  refine ⟨items, itemsOf_eq_ok_iff.mpr ⟨escapedTokens chosen text, tokens_eq_ok_iff.mpr ?_, ?_⟩,
    literal⟩
  · rw [String.toList_ofList]
    exact scans_escapeSigns covers
  · exact parse_eq_ok_iff.mpr ⟨⟨filled, wellFormed⟩, spells⟩

end PayloadTemplate.Template
