import PayloadTemplate.Proofs.Render.Limit
import PayloadTemplate.Proofs.Template.Escaping

/-!
Sources that alternate plain text with references.  They are rendered to the same text with the
texts of the values in place of the references, whatever these texts look like.
-/

namespace PayloadTemplate

open Loop Render Template

/-- A path and the text that is to take its place. -/
structure Hole where
  /-- The path. -/
  path : String
  /-- The text of its value. -/
  text : String
  deriving DecidableEq, Repr

/-- The reference in braces. -/
def Hole.reference (hole : Hole) : String :=
  "$\x7b" ++ hole.path ++ "\x7d"

/-- A hole and the text that stands in front of it. -/
structure Gap extends Hole where
  /-- The text in front. -/
  before : List Char

namespace Gap

/-- A text with something in each of its holes, and more text behind the last of them. -/
def fill (content : Hole → String) (last : List Char) : List Gap → List Char
  | [] => last
  | gap :: rest => gap.before ++ ((content gap.toHole).toList ++ fill content last rest)

/-- The tokens of such a text with references in its holes. -/
def tokens (last : List Char) : List Gap → List Token
  | [] => last.map .text
  | gap :: rest =>
    gap.before.map .text ++ (.exprStart :: .path gap.path :: .exprEnd :: tokens last rest)

/-- The items of such a text with references in its holes. -/
def items (last : List Char) : List Gap → List Item
  | [] => [.text (String.ofList last)]
  | gap :: rest => .text (String.ofList gap.before) :: .reference gap.path :: items last rest

/-- Text that is not empty and has neither a dollar sign nor an escape sign is printed as it is. -/
structure Verbatim (text : List Char) : Prop where
  /-- There is a character. -/
  filled : text ≠ []
  /-- No character begins an expression, a shortcut or an escape. -/
  signless : ∀ character ∈ text, character ≠ '$' ∧ character ≠ '\\'

/-- The path is found as a whole, behind such text. -/
structure Readable (gap : Gap) : Prop where
  /-- The text in front is printed as it is. -/
  before : Verbatim gap.before
  /-- No part of the path is left over. -/
  whole : path? gap.path.toList = some gap.path.toList

variable {last : List Char} {gaps : List Gap}

/-! ## Reading -/

/-- Such text is scanned character by character. -/
theorem Verbatim.scans {run rest : List Char} {found : List Token} (plain : Verbatim run)
    (later : Scans .literal none rest found) :
    Scans .literal none (run ++ rest) (run.map .text ++ found) := by
  have signless := plain.signless
  clear plain
  induction run with
  | nil => exact later
  | cons character run ih =>
    rw [List.forall_mem_cons] at signless
    obtain ⟨⟨notDollar, notEscape⟩, signless⟩ := signless
    -- Whatever follows, a character that is no sign stands for itself.
    have itself : Plain character (run ++ rest) :=
      ⟨fun dollar => absurd dollar notDollar, fun sign => absurd sign notEscape⟩
    exact scans_cons_iff.mpr
      ⟨run ++ rest, literalStep_eq_text_iff.mpr ⟨rfl, itself⟩, (ih signless).of_literal⟩

/-- The text between the holes and the paths in them are scanned one after the other. -/
theorem scans_fill (readable : ∀ gap ∈ gaps, gap.Readable) (plain : Verbatim last) :
    Scans .literal none (fill Hole.reference last gaps) (tokens last gaps) := by
  -- The text in front of a reference is scanned first, then its three tokens, then what follows.
  induction gaps with
  | nil =>
    have nothing : Scans .literal none [] [] := scans_nil_iff.mpr rfl
    simpa [fill, tokens] using plain.scans nothing
  | cons gap rest ih =>
    rw [List.forall_mem_cons] at readable
    obtain ⟨first, readable⟩ := readable
    -- Inside the braces the path is the only word.
    have genuine : (Token.path gap.path).Genuine := ⟨_, first.whole⟩
    have expression := scans_braced rfl genuine (ih readable)
    have same : expressionText [.path gap.path] = gap.reference.toList := by
      simp [expressionText, Token.lexeme, Hole.reference]
    rw [same] at expression
    exact first.before.scans expression

/-- These tokens spell the text between the holes and the references. -/
theorem spells_items (last : List Char) (gaps : List Gap) :
    Spells (items last gaps) (tokens last gaps) := by
  -- Each gap is spelled by its text and a reference in braces.
  induction gaps with
  | nil => simpa [items, tokens] using Spells.text_characters last .nil
  | cons gap rest ih => exact .text_characters gap.before (.braced ih)

/-- No two texts are next to each other, and none is empty. -/
theorem wellFormed_items (readable : ∀ gap ∈ gaps, gap.Readable) (plain : Verbatim last) :
    WellFormed (items last gaps) := by
  refine ⟨by cases gaps <;> exact List.cons_ne_nil _ _, ?_⟩
  induction gaps with
  | nil =>
    have filled : String.ofList last ≠ "" := by simpa using plain.filled
    exact ⟨filled, fun _ => rfl, trivial⟩
  | cons gap rest ih =>
    -- A reference stands between the text in front of it and the next one.
    rw [List.forall_mem_cons] at readable
    have filled : String.ofList gap.before ≠ "" := by simpa using readable.1.before.filled
    have reference : (Item.reference gap.path).isText = true →
        startsWithText (items last rest) = false := nofun
    exact ⟨filled, fun _ => rfl, trivial, reference, ih readable.2⟩

/-- A text with references in its holes is read as just these texts and references. -/
theorem itemsOf_fill (readable : ∀ gap ∈ gaps, gap.Readable) (plain : Verbatim last) :
    itemsOf (String.ofList (fill Hole.reference last gaps)) = .ok (items last gaps) := by
  -- Two braces and a path stand for each gap, and the characters around them for themselves.
  refine itemsOf_eq_ok_iff.mpr ⟨tokens last gaps, tokens_eq_ok_iff.mpr ?_, ?_⟩
  · rw [String.toList_ofList]
    exact scans_fill readable plain
  · exact parse_eq_ok_iff.mpr ⟨wellFormed_items readable plain, spells_items last gaps⟩

/-! ## Rendering -/

/-- Outside all loops each hole takes the text of its value. -/
theorem renderItems_items {resolve : Resolve}
    (resolved : ∀ gap ∈ gaps, (resolve gap.path []).outcome.map Value.text = .ok gap.text) :
    (renderItems resolve (items last gaps)).outcome Stack.empty =
      .ok [String.ofList (fill Hole.text last gaps)] := by
  -- There is one combination, so each item has one text.
  induction gaps with
  | nil =>
    rw [items, renderItems_cons_outcome, renderItem_text_outcome, renderItems_nil_outcome]
    show Except.ok [String.ofList last ++ ""] = _
    rw [String.append_empty, fill]
  | cons gap rest ih =>
    rw [List.forall_mem_cons] at resolved
    obtain ⟨found, resolved⟩ := resolved
    obtain ⟨value, computed, text⟩ := map_eq_ok_iff.mp found
    -- Outside all loops, a reference is asked for once.
    have reference : (renderItem resolve (.reference gap.path)).outcome Stack.empty =
        .ok [gap.text] := by
      rw [renderItem, perCombination_outside, Rendering.outcome_bind, computed, ← text]
      rfl
    rw [items, renderItems_cons_outcome, renderItem_text_outcome, renderItems_cons_outcome,
      reference, ih resolved]
    show Except.ok [String.ofList gap.before ++ (gap.text ++ String.ofList (fill _ last rest))] = _
    rw [fill, String.ofList_append, String.ofList_append, String.ofList_toList]

/-- A text with references in its holes is rendered to the text with their values there. -/
theorem tryRender_fill {engine : Engine} {payload : Value} {definitions : Option Lookup}
    (readable : ∀ gap ∈ gaps, gap.Readable) (plain : Verbatim last)
    (resolved : ∀ gap ∈ gaps,
      (engine.valuesAt payload definitions 0 gap.path []).outcome.map Value.text = .ok gap.text) :
    (engine.tryRender (String.ofList (fill Hole.reference last gaps)) payload
      definitions).outcome = .ok (some (String.ofList (fill Hole.text last gaps))) := by
  -- Already the text in front of the first gap is not empty.
  have nonempty : String.ofList (fill Hole.reference last gaps) ≠ "" := by
    rw [Ne, String.ofList_eq_empty_iff]
    cases gaps with
    | nil => exact plain.filled
    | cons gap rest =>
      rw [List.forall_mem_cons] at readable
      simp [fill, readable.1.before.filled]
  -- The values at the top level are those that the items are rendered with.
  have rendered : (renderItems (engine.valuesAt payload definitions 0)
      (items last gaps)).outcome Stack.empty = .ok [String.ofList (fill Hole.text last gaps)] :=
    renderItems_items resolved
  rw [Engine.valuesAt] at rendered
  rw [Engine.tryRender_outcome nonempty, itemsOf_fill readable plain]
  simp only [Bind.bind, Except.bind, rendered]
  exact singleText_eq_ok_iff.mpr ⟨_, rfl, rfl⟩

end Gap

end PayloadTemplate
