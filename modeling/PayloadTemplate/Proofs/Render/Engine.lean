import PayloadTemplate.Proofs.Render.Walk

/-! What rendering a whole source comes to, in terms of its items. -/

namespace PayloadTemplate

open Render Loop Template

namespace Render

/-- The outcome of a computation that starts outside all loops. -/
theorem start_outcome {α : Type} (computation : Walk α) :
    (Walk.start computation).outcome = computation.outcome Stack.empty := rfl

/-- A source that is not empty is read, rendered outside all loops and has one text. -/
theorem renderWithin_outcome {source : String} (nonempty : source ≠ "") (limit : Nat)
    (payload : Value) (definitions : Option Lookup) (allowance depth : Nat) :
    (renderWithin limit payload definitions (allowance + 1) depth source).outcome =
      (do
        let items ← itemsOf source
        let texts ← (renderItems (resolve ⟨payload, definitions, depth⟩
          (renderWithin limit payload definitions allowance (depth + 1))) items).outcome Stack.empty
        (singleText texts).outcome) := by
  -- Marking the diagnostics as arising inside does not change what is computed.
  have filled : source.isEmpty = false := by simpa using nonempty
  rw [renderWithin, filled, if_neg Bool.false_ne_true, Rendering.outcome_within]
  simp only [Rendering.outcome_bind, itemsOf, bind_assoc, start_outcome]

/-- Outside all loops a render succeeds with the only text there is. -/
theorem singleText_eq_ok_iff {texts : List String} {rendered : Option String} :
    (singleText texts).outcome = .ok rendered ↔ ∃ text, texts = [text] ∧ rendered = some text := by
  -- Any other number of texts is refused.
  unfold singleText
  split
  · simp [eq_comm]
  · rename_i several
    simp only [Rendering.outcome_throw, reduceCtorEq, false_iff, not_exists, not_and]
    exact fun text single _ => several text single

end Render

namespace Engine

/-- The values of paths in a render of some depth. -/
def valuesAt (engine : Engine) (payload : Value) (definitions : Option Lookup) (depth : Nat) :
    Resolve :=
  resolve ⟨payload, definitions, depth⟩ (engine.renderNested ⟨payload, definitions, depth⟩)

/-- A top-level render of a source that is not empty. -/
theorem tryRender_outcome {source : String} (nonempty : source ≠ "") (engine : Engine)
    (payload : Value) (definitions : Option Lookup) :
    (engine.tryRender source payload definitions).outcome =
      (do
        let items ← itemsOf source
        let texts ← (renderItems (resolve ⟨payload, definitions, 0⟩
          (engine.renderNested ⟨payload, definitions, 0⟩)) items).outcome Stack.empty
        (singleText texts).outcome) :=
  -- All further depths up to the limit may be entered below the top level.
  renderWithin_outcome nonempty engine.maxDepth payload definitions engine.maxDepth 0

end Engine

end PayloadTemplate
