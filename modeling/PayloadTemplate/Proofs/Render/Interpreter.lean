import Mathlib.Control.Monad.Basic
import PayloadTemplate.Proofs.Render.Engine

/-!
A plain interpreter of templates, which runs its loops one key after the other.  Rendering all
combinations at once gives, for each of them, the text that the interpreter gives.
-/

namespace PayloadTemplate.Render

open Loop Template

mutual

/-- The text of an item under one set of bindings.  Only the chosen branch is looked at. -/
def interpretItem (scope : Scope) (nested : NestedRender) :
    Item → Bindings → Except RenderError String
  | .text content, _ => return content
  | .escaped character, _ => return character.toString
  | .reference path, bindings => do
    let value ← (resolveText scope nested path bindings).outcome
    return value.text
  | .whenTrue condition body, bindings => do
    let value ← (resolve scope nested condition bindings).outcome
    if value.isTruthy then interpretItems scope nested body bindings else return ""
  | .whenFalse condition body, bindings => do
    let value ← (resolve scope nested condition bindings).outcome
    if value.isTruthy then return "" else interpretItems scope nested body bindings
  | .choice condition accepted refused, bindings => do
    let value ← (resolve scope nested condition bindings).outcome
    if value.isTruthy then interpretItems scope nested accepted bindings
    else interpretItems scope nested refused bindings
  | .loop index source body, bindings => do
    let domain ← domainAt (resolve scope nested) source
    let texts ← domain.mapM fun key =>
      interpretItems scope nested body ((index.toString, key) :: bindings)
    return String.join texts

/-- The texts of items one after the other. -/
def interpretItems (scope : Scope) (nested : NestedRender) :
    List Item → Bindings → Except RenderError String
  | [], _ => return ""
  | item :: rest, bindings => do
    let text ← interpretItem scope nested item bindings
    let later ← interpretItems scope nested rest bindings
    return text ++ later

end

/-- There is one result for every combination: what a computation gives under its bindings. -/
structure Tabulates {α : Type} (stack : Stack) (results : List α)
    (compute : Bindings → Except RenderError α) : Prop where
  /-- No result is missing and none is too many. -/
  length_eq : results.length = stack.combinationCount
  /-- Each result stands at the number of its combination. -/
  entry : ∀ {number result}, results[number]? = some result →
    compute (Stack.digits stack.loops number) = .ok result

namespace Tabulates

variable {α β γ : Type} {stack : Stack}

/-- The same result for all combinations. -/
theorem replicate {result : α} {compute : Bindings → Except RenderError α}
    (constant : ∀ bindings, compute bindings = .ok result) :
    Tabulates stack (List.replicate stack.combinationCount result) compute where
  length_eq := List.length_replicate
  entry := fun {number found} located => by
    -- Every entry of the list is the one result.
    have member := List.mem_of_getElem? located
    rw [List.eq_of_mem_replicate member]
    exact constant _

/-- Combining two tables entry by entry. -/
theorem zipWith {lefts : List α} {rights : List β} {left : Bindings → Except RenderError α}
    {right : Bindings → Except RenderError β} {combined : Bindings → Except RenderError γ}
    (leftTable : Tabulates stack lefts left) (rightTable : Tabulates stack rights right)
    (combine : α → β → γ)
    (agrees : ∀ {bindings first second}, left bindings = .ok first →
      right bindings = .ok second → combined bindings = .ok (combine first second)) :
    Tabulates stack (List.zipWith combine lefts rights) combined where
  length_eq := by
    -- Neither list is longer than the other.
    rw [List.length_zipWith, leftTable.length_eq, rightTable.length_eq, Nat.min_self]
  entry := fun {number found} located => by
    -- Entries at the same place belong to the same combination.
    obtain ⟨first, second, firstAt, secondAt, rfl⟩ :=
      List.getElem?_zipWith_eq_some.mp located
    exact agrees (leftTable.entry firstAt) (rightTable.entry secondAt)

end Tabulates

/-- Looking at each combination gives a table of what is found. -/
theorem perCombination_tabulates {α : Type} {compute : Bindings → Rendering α} {stack : Stack}
    {results : List α} (computed : (perCombination compute).outcome stack = .ok results) :
    Tabulates stack results fun bindings => (compute bindings).outcome := by
  -- The results stand in the order of the numbers.
  rw [perCombination_outcome, mapM_eq_ok_iff] at computed
  have lengths := congrArg List.length computed
  simp only [List.length_map, List.length_range] at lengths
  refine ⟨lengths.symm, fun {number result} located => ?_⟩
  have entries := congrArg (·[number]?) computed
  have below : number < stack.combinationCount := by
    rw [lengths]
    exact (List.getElem?_eq_some_iff.mp located).1
  simpa [located, below] using entries

/-- Texts that fill their runs are cut at the multiples of the size. -/
theorem runs_eq_map_range {count size : Nat} {texts : List String} (positive : 0 < size)
    (whole : texts.length = size * count) :
    runs size texts =
      (List.range count).map fun number => (texts.drop (number * size)).take size := by
  -- Each run takes its size from the texts.
  induction count generalizing texts with
  | zero =>
    have empty : texts = [] := List.eq_nil_of_length_eq_zero (by simpa using whole)
    rw [runs, if_pos (.inr empty), List.range_zero, List.map_nil]
  | succ count ih =>
    rw [Nat.mul_succ] at whole
    have ongoing : ¬(size = 0 ∨ texts = []) := by
      rintro (none | rfl)
      · omega
      · rw [List.length_nil] at whole
        omega
    have rest : (texts.drop size).length = size * count := by
      rw [List.length_drop]
      omega
    rw [runs, if_neg ongoing, ih rest, List.range_succ_eq_map, List.map_cons, List.map_map,
      Nat.zero_mul, List.drop_zero]
    -- Behind the first run, the multiples of the size are one further on.
    refine congrArg _ (List.map_congr_left fun number _ => ?_)
    rw [List.drop_drop, Function.comp_apply, Nat.succ_mul, Nat.add_comm]

/-- As many texts are joined as there are runs, each from the multiple of the size that it has. -/
theorem joinRuns_eq_map_range {count size : Nat} {texts : List String}
    (whole : texts.length = size * count) :
    joinRuns count size texts =
      (List.range count).map fun number =>
        String.join ((texts.drop (number * size)).take size) := by
  unfold joinRuns
  split
  · -- Runs without a size are empty, and so are their texts.
    rename_i keyless
    subst keyless
    simp [List.map_const']
  · rename_i keyed
    rw [runs_eq_map_range (Nat.pos_of_ne_zero keyed) whole, List.map_map]
    rfl

/-- Inside a loop, a combination of the loops around it has one entry for each key, in order. -/
theorem Tabulates.run {stack : Stack} {name : String} {domain : List Key} {texts : List String}
    {compute : Bindings → Except RenderError String} {number : Nat}
    (table : Tabulates ⟨⟨name, domain⟩ :: stack.loops⟩ texts compute)
    (below : number < stack.combinationCount) :
    domain.map (fun key => compute ((name, key) :: Stack.digits stack.loops number)) =
      ((texts.drop (number * domain.length)).take domain.length).map .ok := by
  -- The key's position is the last digit of the entry's number.
  have whole : (number + 1) * domain.length ≤ texts.length := by
    rw [table.length_eq, Stack.combinationCount_inside, Nat.mul_comm _ stack.combinationCount]
    exact Nat.mul_le_mul_right domain.length below
  rw [Nat.succ_mul] at whole
  refine List.ext_getElem? fun position => ?_
  by_cases within : position < domain.length
  · -- The entry at this position of the run is that of the key at this position.
    have located : number * domain.length + position < texts.length := by omega
    have entry := table.entry (List.getElem?_eq_getElem located)
    have digits := Stack.digits_key ⟨name, domain⟩ stack.loops number
      (List.getElem?_eq_getElem within)
    simp only [ActiveLoop.size] at digits
    rw [digits] at entry
    simp [within, located, entry]
  · -- Both lists end with the last key.
    rw [List.getElem?_eq_none (by simpa using within), List.getElem?_eq_none (by simp; omega)]

/-- Joining the runs of a table inside a loop gives a table outside of it. -/
theorem Tabulates.joinRuns {stack : Stack} {name : String} {domain : List Key}
    {texts : List String} {compute : Bindings → Except RenderError String}
    (table : Tabulates ⟨⟨name, domain⟩ :: stack.loops⟩ texts compute) :
    Tabulates stack (joinRuns stack.combinationCount domain.length texts) fun bindings => do
      let pieces ← domain.mapM fun key => compute ((name, key) :: bindings)
      return String.join pieces := by
  have whole : texts.length = domain.length * stack.combinationCount := table.length_eq
  rw [joinRuns_eq_map_range whole]
  refine ⟨by rw [List.length_map, List.length_range], fun {number result} located => ?_⟩
  -- Each entry joins the run of its combination.
  rw [List.getElem?_map, Option.map_eq_some_iff] at located
  obtain ⟨place, counted, joined⟩ := located
  obtain ⟨below, rfl⟩ := List.getElem?_eq_some_iff.mp counted
  rw [List.length_range] at below
  rw [List.getElem_range] at joined
  exact bind_eq_ok_iff.mpr ⟨_, mapM_eq_ok_iff.mpr (table.run below), congrArg _ joined⟩

section Refinement

variable (scope : Scope) (nested : NestedRender)

/-- A path printed as text prints the text of its value. -/
theorem resolveText_outcome (path : String) (bindings : Bindings) :
    (resolveText scope nested path bindings).outcome =
      (resolve scope nested path bindings).outcome.map fun value => .string value.text := by
  -- Nothing follows resolution but the conversion.
  rw [resolveText, Rendering.outcome_bind]
  cases (resolve scope nested path bindings).outcome <;> rfl

/-- The truth of a condition, where its path can be resolved. -/
theorem truthTable_tabulates {condition : String} {stack : Stack} {truths : List Bool}
    (tested : (truthTable (resolve scope nested) condition).outcome stack = .ok truths) :
    Tabulates stack truths fun bindings =>
      (resolve scope nested condition bindings).outcome.map Value.isTruthy := by
  -- Nothing follows resolution but the test.
  have table := perCombination_tabulates tested
  refine ⟨table.length_eq, fun located => ?_⟩
  have entry := table.entry located
  rw [Rendering.outcome_bind] at entry
  rw [← entry]
  cases (resolve scope nested condition _).outcome <;> rfl

/-- Picking by the truth of a condition, one combination after the other. -/
theorem Tabulates.pick {α β : Type} {condition : String} {stack : Stack} {truths : List Bool}
    {results : List α} {compute : Bindings → Except RenderError α}
    {combined : Bindings → Except RenderError β} (table : Tabulates stack results compute)
    (tested : (truthTable (resolve scope nested) condition).outcome stack = .ok truths)
    (choose : Bool → α → β)
    (agrees : ∀ {bindings value result},
      (resolve scope nested condition bindings).outcome = .ok value →
        compute bindings = .ok result →
          combined bindings = .ok (choose value.isTruthy result)) :
    Tabulates stack (List.zipWith choose truths results) combined := by
  refine (truthTable_tabulates scope nested tested).zipWith table choose ?_
  -- The truth stands for the value that it has been read off from.
  intro bindings truth result decided computed
  obtain ⟨value, resolved, rfl⟩ := map_eq_ok_iff.mp decided
  exact agrees resolved computed

mutual

/-- The texts of an item are those that the interpreter gives for each combination. -/
theorem renderItem_tabulates :
    ∀ (item : Item) {stack : Stack} {texts : List String},
      (renderItem (resolve scope nested) item).outcome stack = .ok texts →
        Tabulates stack texts (interpretItem scope nested item)
  | .text content, stack, texts, rendered => by
    rw [renderItem_text_outcome, Except.ok.injEq] at rendered
    subst rendered
    exact .replicate fun _ => rfl
  | .escaped character, stack, texts, rendered => by
    rw [renderItem_escaped_outcome, Except.ok.injEq] at rendered
    subst rendered
    exact .replicate fun _ => rfl
  | .reference path, stack, texts, rendered => by
    -- Printing the value as text and reading the text off again change nothing.
    rw [renderItem] at rendered
    have table := perCombination_tabulates rendered
    refine ⟨table.length_eq, fun located => ?_⟩
    have entry := table.entry located
    rw [Rendering.outcome_bind] at entry
    rw [← entry, interpretItem, resolveText_outcome]
    cases (resolve scope nested path _).outcome <;> rfl
  | .whenTrue condition body, stack, texts, rendered => by
    -- The texts of the body are there for all combinations, chosen or not.
    simp only [renderItem_whenTrue_outcome, bind_eq_ok_iff, pure_eq_ok_iff] at rendered
    obtain ⟨bodyTexts, bodyRendered, truths, tested, rfl⟩ := rendered
    have bodyTable := renderItems_tabulates body bodyRendered
    refine bodyTable.pick scope nested tested _ ?_
    intro bindings value text resolved printed
    simp only [interpretItem, resolved, Bind.bind, Except.bind]
    split
    · exact printed
    · rfl
  | .whenFalse condition body, stack, texts, rendered => by
    -- Here the texts are kept where the condition does not hold.
    simp only [renderItem_whenFalse_outcome, bind_eq_ok_iff, pure_eq_ok_iff] at rendered
    obtain ⟨bodyTexts, bodyRendered, truths, tested, rfl⟩ := rendered
    have bodyTable := renderItems_tabulates body bodyRendered
    refine bodyTable.pick scope nested tested _ ?_
    intro bindings value text resolved printed
    simp only [interpretItem, resolved, Bind.bind, Except.bind]
    split
    · rfl
    · exact printed
  | .choice condition accepted refused, stack, texts, rendered => by
    simp only [renderItem_choice_outcome, bind_eq_ok_iff, pure_eq_ok_iff] at rendered
    obtain ⟨acceptedTexts, acceptedRendered, refusedTexts, refusedRendered, truths, tested,
      rfl⟩ := rendered
    -- The two branches make up one table of pairs.
    have branches : Tabulates stack (acceptedTexts.zip refusedTexts) fun bindings => do
        let first ← interpretItems scope nested accepted bindings
        let second ← interpretItems scope nested refused bindings
        return (first, second) := by
      refine (renderItems_tabulates accepted acceptedRendered).zipWith
        (renderItems_tabulates refused refusedRendered) Prod.mk ?_
      intro bindings first second printed otherPrinted
      rw [printed, otherPrinted]
      rfl
    refine branches.pick scope nested tested _ ?_
    intro bindings value pair resolved printed
    simp only [bind_eq_ok_iff, pure_eq_ok_iff] at printed
    obtain ⟨first, firstPrinted, second, secondPrinted, rfl⟩ := printed
    simp only [interpretItem, resolved, Bind.bind, Except.bind]
    split
    · exact firstPrinted
    · exact secondPrinted
  | .loop index source body, stack, texts, rendered => by
    -- The body has a table under the loop and the loops around it; its runs are joined.
    simp only [renderItem_loop_outcome, bind_eq_ok_iff, pure_eq_ok_iff] at rendered
    obtain ⟨domain, found, inner, entered, bodyTexts, bodyRendered, rfl⟩ := rendered
    rw [mapError_eq_ok_iff, Stack.push_eq_ok_iff] at entered
    obtain ⟨_, _, rfl⟩ := entered
    have joined := (renderItems_tabulates body bodyRendered).joinRuns
    refine ⟨joined.length_eq, fun located => ?_⟩
    rw [interpretItem, found]
    exact joined.entry located

/-- The texts of items are those that the interpreter gives for each combination. -/
theorem renderItems_tabulates :
    ∀ (items : List Item) {stack : Stack} {texts : List String},
      (renderItems (resolve scope nested) items).outcome stack = .ok texts →
        Tabulates stack texts (interpretItems scope nested items)
  | [], stack, texts, rendered => by
    rw [renderItems_nil_outcome, Except.ok.injEq] at rendered
    subst rendered
    exact .replicate fun _ => rfl
  | item :: rest, stack, texts, rendered => by
    -- Both tables are as long as there are combinations, so none of their texts is cut off.
    simp only [renderItems_cons_outcome, bind_eq_ok_iff, pure_eq_ok_iff] at rendered
    obtain ⟨first, firstRendered, later, laterRendered, rfl⟩ := rendered
    refine (renderItem_tabulates item firstRendered).zipWith
      (renderItems_tabulates rest laterRendered) _ ?_
    intro bindings text laterText printed laterPrinted
    rw [interpretItems, printed, laterPrinted]
    rfl

end

/-- Outside all loops, items that are rendered have exactly one text. -/
theorem renderItems_single {items : List Item} {texts : List String}
    (rendered : (renderItems (resolve scope nested) items).outcome Stack.empty = .ok texts) :
    ∃ text, texts = [text] :=
  -- No loops have one combination.
  List.length_eq_one_iff.mp (renderItems_tabulates scope nested items rendered).length_eq

end Refinement

/-- A source that is rendered has items, and its text is the one that the interpreter gives. -/
theorem tryRender_interprets {engine : Engine} {payload : Value} {definitions : Option Lookup}
    {source : String} {rendered : Option String} (nonempty : source ≠ "")
    (succeeded : (engine.tryRender source payload definitions).outcome = .ok rendered) :
    ∃ items text, itemsOf source = .ok items ∧ rendered = some text ∧
      interpretItems ⟨payload, definitions, 0⟩ (engine.renderNested ⟨payload, definitions, 0⟩)
        items [] = .ok text := by
  rw [Engine.tryRender_outcome nonempty] at succeeded
  simp only [bind_eq_ok_iff, singleText_eq_ok_iff] at succeeded
  obtain ⟨items, parsed, _, evaluated, text, rfl, rfl⟩ := succeeded
  -- The only combination outside all loops has number zero and binds nothing.
  have table := renderItems_tabulates _ _ items evaluated
  exact ⟨items, text, parsed, rfl, table.entry List.getElem?_cons_zero⟩

/-- Whatever loops are active, rendering items that succeeds gives one text for each combination,
which is the text of the interpreter under the bindings of that combination.  Outside all loops a
source is rendered to the text that the interpreter gives without any bindings. -/
theorem rendering_refines_interpreter (engine : Engine) (payload : Value)
    (definitions : Option Lookup) :
    (∀ (depth : Nat) (stack : Stack) (items : List Item) (texts : List String),
      (renderItems (resolve ⟨payload, definitions, depth⟩
          (engine.renderNested ⟨payload, definitions, depth⟩)) items).outcome stack = .ok texts →
        texts.length = stack.combinationCount ∧
          ∀ number, number < stack.combinationCount →
            ∃ bindings text, stack.bindingsFor number = .ok bindings ∧
              texts[number]? = some text ∧
                interpretItems ⟨payload, definitions, depth⟩
                  (engine.renderNested ⟨payload, definitions, depth⟩) items bindings = .ok text) ∧
      ∀ (source : String) (rendered : Option String), source ≠ "" →
        (engine.tryRender source payload definitions).outcome = .ok rendered →
          ∃ items text, itemsOf source = .ok items ∧ rendered = some text ∧
            interpretItems ⟨payload, definitions, 0⟩
              (engine.renderNested ⟨payload, definitions, 0⟩) items [] = .ok text := by
  constructor
  · intro depth stack items texts rendered
    have table := renderItems_tabulates _ _ items rendered
    refine ⟨table.length_eq, fun number below => ?_⟩
    -- Every number below the count has its bindings and its text.
    have located := List.getElem?_eq_getElem (table.length_eq ▸ below)
    exact ⟨_, _, Stack.bindingsFor_of_lt below, located, table.entry located⟩
  · intro source rendered nonempty succeeded
    exact tryRender_interprets nonempty succeeded

/-- A payload with one sequence of two texts. -/
def letters : Value :=
  .map [("l", .sequence [.string "a", .string "b"])]

/-- A loop inside an active one over two positions, and a source with a loop. -/
theorem rendering_refines_interpreter_letters :
    (renderItems (resolve ⟨letters, none, 0⟩ (Engine.standard.renderNested ⟨letters, none, 0⟩))
        [.loop 'j' "data.l" [.reference "key.i", .reference "data.l.j"]]).outcome
          ⟨[⟨"i", [.index 0, .index 1]⟩]⟩ = .ok ["0a0b", "1a1b"] ∧
      (∃ bindings text,
        Stack.bindingsFor ⟨[⟨"i", [.index 0, .index 1]⟩]⟩ 1 = .ok bindings ∧
          ["0a0b", "1a1b"][1]? = some text ∧
            interpretItems ⟨letters, none, 0⟩ (Engine.standard.renderNested ⟨letters, none, 0⟩)
              [.loop 'j' "data.l" [.reference "key.i", .reference "data.l.j"]] bindings =
                .ok text) ∧
      (Engine.standard.tryRender "$\x7bfor i in data.l\x7d$data.l.i,$\x7bendfor\x7d" letters
        none).outcome = .ok (some "a,b,") ∧
      ∃ items text,
        itemsOf "$\x7bfor i in data.l\x7d$data.l.i,$\x7bendfor\x7d" = .ok items ∧
          some "a,b," = some text ∧
            interpretItems ⟨letters, none, 0⟩ (Engine.standard.renderNested ⟨letters, none, 0⟩)
              items [] = .ok text := by
  -- Both renders are evaluated.
  have rendered : (renderItems
      (resolve ⟨letters, none, 0⟩ (Engine.standard.renderNested ⟨letters, none, 0⟩))
        [.loop 'j' "data.l" [.reference "key.i", .reference "data.l.j"]]).outcome
          ⟨[⟨"i", [.index 0, .index 1]⟩]⟩ = .ok ["0a0b", "1a1b"] := by
    decide +kernel
  have succeeded : (Engine.standard.tryRender
      "$\x7bfor i in data.l\x7d$data.l.i,$\x7bendfor\x7d" letters none).outcome =
        .ok (some "a,b,") := by
    decide +kernel
  have refines := rendering_refines_interpreter Engine.standard letters none
  have entries := (refines.1 0 _ _ _ rendered).2 1 (by decide)
  exact ⟨rendered, entries, succeeded, refines.2 _ _ (by decide) succeeded⟩

end PayloadTemplate.Render
