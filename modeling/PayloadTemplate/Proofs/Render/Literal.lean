import PayloadTemplate.Proofs.Render.Engine
import PayloadTemplate.Proofs.Template.Escaping

/-!
Literal items print their characters under all loops, so a text with escaped dollar signs is
rendered to itself.
-/

namespace PayloadTemplate.Render

open Loop Template

/-- Items that stand for the characters of a text print that text for every combination. -/
theorem renderItems_literal_outcome {items : List Item} {characters : List Char}
    (literal : Literal items characters) (resolve : Resolve) (stack : Stack) :
    (renderItems resolve items).outcome stack =
      .ok (List.replicate stack.combinationCount (String.ofList characters)) := by
  -- Each item repeats its own characters, and the repeated texts are joined one by one.
  induction literal with
  | nil => exact renderItems_nil_outcome resolve stack
  | text _ ih =>
    rw [renderItems_cons_outcome, renderItem_text_outcome, ih]
    simp [Bind.bind, Except.bind, Pure.pure, Except.pure]
  | escaped _ ih =>
    rw [renderItems_cons_outcome, renderItem_escaped_outcome, ih]
    simp [Bind.bind, Except.bind, Pure.pure, Except.pure,
      Char.toString_eq_singleton, String.ofList_cons]

/-- A source whose items stand for the characters of a text is rendered to that text. -/
theorem tryRender_literal {source : String} {items : List Item} {characters : List Char}
    (nonempty : source ≠ "") (read : itemsOf source = .ok items)
    (literal : Literal items characters) (engine : Engine) (payload : Value)
    (definitions : Option Lookup) :
    (engine.tryRender source payload definitions).outcome =
      .ok (some (String.ofList characters)) := by
  -- Outside all loops there is one combination and so one text.
  rw [Engine.tryRender_outcome nonempty, read]
  simp only [Bind.bind, Except.bind, renderItems_literal_outcome literal]
  exact singleText_eq_ok_iff.mpr ⟨_, rfl, rfl⟩

/-- Every text is written by a source: with an escape sign before each dollar sign that needs one,
and before any others, it is rendered to itself.  A text without such dollar signs needs no escape,
and escaping all of them always works. -/
theorem tryRender_escapeSigns (engine : Engine) (payload : Value) (definitions : Option Lookup)
    {text : String} (nonempty : text ≠ "") :
    (∀ chosen : Nat → Bool,
      (∀ position, NeedsEscape text.toList position → chosen position = true) →
        (engine.tryRender (String.ofList (escapeSigns chosen text.toList)) payload
          definitions).outcome = .ok (some text)) ∧
      ((∀ position, ¬NeedsEscape text.toList position) →
        (engine.tryRender text payload definitions).outcome = .ok (some text)) ∧
      (engine.tryRender (String.ofList (escapeSigns (fun _ => true) text.toList)) payload
        definitions).outcome = .ok (some text) := by
  have filled : text.toList ≠ [] := by simpa using nonempty
  have general : ∀ chosen : Nat → Bool,
      (∀ position, NeedsEscape text.toList position → chosen position = true) →
        (engine.tryRender (String.ofList (escapeSigns chosen text.toList)) payload
          definitions).outcome = .ok (some text) := by
    intro chosen covers
    obtain ⟨items, read, literal⟩ := itemsOf_escapeSigns filled covers
    -- Escaping only adds characters, so the source is not empty either.
    have written : String.ofList (escapeSigns chosen text.toList) ≠ "" := by
      simpa using escapeSigns_ne_nil chosen filled
    rw [tryRender_literal written read literal, String.ofList_toList]
  refine ⟨general, fun free => ?_, general _ fun _ _ => rfl⟩
  -- Choosing no dollar sign leaves the text as it is.
  have unchanged := general (fun _ => false) fun position needs => absurd needs (free position)
  rwa [escapeSigns_none, String.ofList_toList] at unchanged

/-- A dollar sign before a path, one behind an escape sign, one before a brace and two that stand
for themselves, of which the last is escaped all the same. -/
theorem tryRender_escapeSigns_mixed :
    "$data \\$ $$\x7b $dat" ≠ "" ∧
      (∀ position, NeedsEscape "$data \\$ $$\x7b $dat".toList position →
        [0, 7, 10, 13].contains position = true) ∧
      ((⟨0⟩ : Engine).tryRender "\\$data \\\\$ $\\$\x7b \\$dat" .null none).outcome =
        .ok (some "$data \\$ $$\x7b $dat") := by
  -- Only the positions of the text have to be looked at.
  have checked : ∀ position < 17, NeedsEscape "$data \\$ $$\x7b $dat".toList position →
      [0, 7, 10, 13].contains position = true := by decide
  have covers : ∀ position, NeedsEscape "$data \\$ $$\x7b $dat".toList position →
      [0, 7, 10, 13].contains position = true :=
    fun position needs => checked position needs.lt needs
  have rendered := (tryRender_escapeSigns ⟨0⟩ .null none (by decide)).1 _ covers
  exact ⟨by decide, covers, rendered⟩

end PayloadTemplate.Render
