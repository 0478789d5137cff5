import PayloadTemplate.Proofs.Render.Faults

/-!
Rendering keeps the loops and has one text for each of their combinations, so what a loop joins are
the texts of its body, run by run, and no misuse of the loops is ever reported.
-/

namespace PayloadTemplate.Render

open Loop Template

/-- A computation leaves the loops that it found, also when it fails, and if it succeeds there is
one text for each of their combinations. -/
def Walk.Balanced (computation : Walk (List String)) : Prop :=
  ∀ stack, (computation.result stack).2 = stack ∧
    ∀ texts, (computation.result stack).1 = .ok texts → texts.length = stack.combinationCount

section Balance

variable (scope : Scope) (nested : NestedRender)

/-- An item keeps the loops and has a text for each combination. -/
theorem renderItem_balanced (item : Item) :
    (renderItem (resolve scope nested) item).Balanced :=
  fun stack => ⟨renderItem_keepsLoops _ item stack, fun _ rendered =>
    (renderItem_tabulates scope nested item rendered).length_eq⟩

/-- Items keep the loops and have a text for each combination. -/
theorem renderItems_balanced (items : List Item) :
    (renderItems (resolve scope nested) items).Balanced :=
  fun stack => ⟨renderItems_keepsLoops _ items stack, fun _ rendered =>
    (renderItems_tabulates scope nested items rendered).length_eq⟩

/-- A loop that succeeds joins all texts of its body, in runs of as many as it has keys, and
without keys it has empty texts. -/
theorem renderItem_loop_runs {index : Char} {source : String} {body : List Item} {stack : Stack}
    {texts : List String}
    (rendered : (renderItem (resolve scope nested) (.loop index source body)).outcome stack =
      .ok texts) :
    ∃ domain inner bodyTexts, domainAt (resolve scope nested) source = .ok domain ∧
      stack.push index.toString domain = .ok inner ∧
      (renderItems (resolve scope nested) body).outcome inner = .ok bodyTexts ∧
      bodyTexts.length = domain.length * stack.combinationCount ∧
      texts = if domain.length = 0 then List.replicate stack.combinationCount ""
        else (runs domain.length bodyTexts).map String.join := by
  simp only [renderItem_loop_outcome, bind_eq_ok_iff, mapError_eq_ok_iff,
    pure_eq_ok_iff] at rendered
  obtain ⟨domain, found, inner, entered, bodyTexts, bodyRendered, rfl⟩ := rendered
  -- Inside the loop there are as many combinations for each one outside as the loop has keys.
  have count : bodyTexts.length = domain.length * stack.combinationCount := by
    obtain ⟨_, _, rfl⟩ := Stack.push_eq_ok_iff.mp entered
    exact (renderItems_tabulates scope nested body bodyRendered).length_eq
  exact ⟨domain, inner, bodyTexts, found, entered, bodyRendered, count, rfl⟩

end Balance

/-- Every rendering of an item or of items, at whatever depth and inside whatever loops, leaves the
loops that it found, and if it succeeds it has one text for each of their combinations; a loop joins
the texts of its body run by run.  So no render, be it at the top level or of a variable, ends with
another number of texts than one, and no error of loops is reported but that there are too many
combinations. -/
theorem rendering_keeps_loops_and_counts (engine : Engine) (payload : Value)
    (definitions : Option Lookup) :
    (∀ depth,
      (∀ items, (renderItems (engine.valuesAt payload definitions depth) items).Balanced) ∧
      (∀ item, (renderItem (engine.valuesAt payload definitions depth) item).Balanced) ∧
      ∀ index source body stack texts,
        (renderItem (engine.valuesAt payload definitions depth)
            (.loop index source body)).outcome stack = .ok texts →
          ∃ domain inner bodyTexts,
            domainAt (engine.valuesAt payload definitions depth) source = .ok domain ∧
            stack.push index.toString domain = .ok inner ∧
            (renderItems (engine.valuesAt payload definitions depth) body).outcome inner =
              .ok bodyTexts ∧
            bodyTexts.length = domain.length * stack.combinationCount ∧
            texts = if domain.length = 0 then List.replicate stack.combinationCount ""
              else (runs domain.length bodyTexts).map String.join) ∧
      ∀ source error, ((engine.tryRender source payload definitions).outcome = .error error ∨
          ∃ depth, (engine.renderNested ⟨payload, definitions, depth⟩ source).outcome =
            .error error) →
        (∀ results, error ≠ .branching results) ∧
          ∀ fault, error = .loop fault → ∃ name, fault = .tooManyCombinations name := by
  constructor
  · -- Under any depth, rendering leaves the stack as it found it, and a loop joins its runs.
    intro depth
    refine ⟨renderItems_balanced _ _, renderItem_balanced _ _, ?_⟩
    intro index source body stack texts rendered
    exact renderItem_loop_runs _ _ rendered
  · intro source error failed
    -- Both are renders within some allowance.
    have possible : Possible error := by
      rcases failed with top | ⟨depth, below⟩
      · exact renderWithin_possible top
      · exact renderWithin_possible below
    constructor
    · rintro results rfl
      exact possible
    · -- Of the errors of loops, only that of too many combinations can be met.
      rintro fault rfl
      cases fault with
      | tooManyCombinations name => exact ⟨name, rfl⟩
      | _ => exact possible.elim

/-- A loop inside an active one over two positions, and a loop with a body that fails. -/
theorem rendering_keeps_loops_and_counts_letters :
    (∃ domain inner bodyTexts,
      domainAt (Engine.standard.valuesAt letters none 0) "data.l" = .ok domain ∧
        Stack.push ⟨[⟨"i", [.index 0, .index 1]⟩]⟩ "j" domain = .ok inner ∧
        (renderItems (Engine.standard.valuesAt letters none 0)
          [.reference "key.i", .reference "data.l.j"]).outcome inner = .ok bodyTexts ∧
        bodyTexts.length = domain.length * 2 ∧
        ["0a0b", "1a1b"] = if domain.length = 0 then List.replicate 2 ""
          else (runs domain.length bodyTexts).map String.join) ∧
      (Engine.standard.tryRender "$\x7bfor i in data.l\x7d$env.i$\x7bendfor\x7d" letters
        none).outcome = .error (.resolution (.unsupportedRoot "env.i")) ∧
      ((∀ results, RenderError.resolution (.unsupportedRoot "env.i") ≠ .branching results) ∧
        ∀ fault, RenderError.resolution (.unsupportedRoot "env.i") = .loop fault →
          ∃ name, fault = .tooManyCombinations name) := by
  -- Both renders are evaluated.
  have rendered : (renderItem (Engine.standard.valuesAt letters none 0)
      (.loop 'j' "data.l" [.reference "key.i", .reference "data.l.j"])).outcome
        ⟨[⟨"i", [.index 0, .index 1]⟩]⟩ = .ok ["0a0b", "1a1b"] := by
    decide +kernel
  have failed : (Engine.standard.tryRender "$\x7bfor i in data.l\x7d$env.i$\x7bendfor\x7d"
      letters none).outcome = .error (.resolution (.unsupportedRoot "env.i")) := by
    decide +kernel
  have kept := rendering_keeps_loops_and_counts Engine.standard letters none
  exact ⟨(kept.1 0).2.2 _ _ _ _ _ rendered, failed, kept.2 _ _ (.inl failed)⟩

end PayloadTemplate.Render
