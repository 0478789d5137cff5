import Mathlib.Data.List.Zip
import PayloadTemplate.Proofs.Render.Interpreter
import PayloadTemplate.Proofs.Template.Parsing

/-!
Templates compose.  Where the tokens of two sources are those of their concatenation, its items are
theirs with the texts at the seam merged, and it is rendered to the text of the first and then that
of the second.
-/

namespace PayloadTemplate

namespace Template

/-! ## The items of a concatenation -/

/-- Puts an item in front of others.  A text goes on with the text behind it. -/
def joinItem : Item → List Item → List Item
  | .text before, .text after :: rest => .text (before ++ after) :: rest
  | item, rest => item :: rest

/-- Items in front of others, with the texts at the seam merged. -/
def joinItems (first second : List Item) : List Item :=
  first.foldr joinItem second

/-- An item stays one of its own unless it is a text with another one behind it. -/
theorem joinItem_cases (item : Item) (items : List Item) :
    (∃ before after rest, item = .text before ∧ items = .text after :: rest ∧
        joinItem item items = .text (before ++ after) :: rest) ∨
      (item.isText = true → startsWithText items = false) ∧
        joinItem item items = item :: items := by
  -- Only a text in front of a text is joined with it.
  cases item with
  | text before =>
    cases items with
    | nil => exact .inr ⟨fun _ => rfl, rfl⟩
    | cons next rest =>
      cases next with
      | text after => exact .inl ⟨before, after, rest, rfl, rfl, rfl⟩
      | _ => exact .inr ⟨fun _ => rfl, rfl⟩
  | _ => exact .inr ⟨nofun, rfl⟩

/-- A text is spelled in front of others whether or not it goes on with another one. -/
theorem Spells.joinText {items : List Item} {tokens : List Token} (content : String)
    (spells : Spells items tokens) :
    Spells (joinItem (.text content) items) (content.toList.map .text ++ tokens) := by
  -- The tokens of a text are its characters, so those of two texts are the characters of both.
  rcases joinItem_cases (.text content) items with
    ⟨before, after, rest, same, rfl, merged⟩ | ⟨_, kept⟩
  · cases same
    cases spells with
    | text later =>
      rw [merged, ← List.append_assoc, ← List.map_append, ← String.toList_append]
      exact .text later
  · rw [kept]
    exact .text spells

/-- Items and others behind them are spelled by their tokens, one after the other. -/
theorem Spells.join {first second : List Item} {before after : List Token}
    (spells : Spells first before) (later : Spells second after) :
    Spells (joinItems first second) (before ++ after) := by
  induction spells with
  | nil => exact later
  | text _ ih =>
    rw [List.append_assoc]
    exact ih.joinText _
  | escaped pair _ ih => exact .escaped pair ih
  | shortcut _ ih => exact .shortcut ih
  | braced _ ih => exact .braced ih
  -- Behind a block, the other tokens stand behind those of its bodies.
  | whenTrue within _ _ ih =>
    simp only [List.cons_append, List.append_assoc]
    exact .whenTrue within ih
  | whenFalse within _ _ ih =>
    simp only [List.cons_append, List.append_assoc]
    exact .whenFalse within ih
  | choice withinFirst withinSecond _ _ _ ih =>
    simp only [List.cons_append, List.append_assoc]
    exact .choice withinFirst withinSecond ih
  | loop within _ _ ih =>
    simp only [List.cons_append, List.append_assoc]
    exact .loop within ih

/-- An item in front of well-formed items gives well-formed items. -/
theorem wellFormedItems_joinItem {enclosing : List Char} {item : Item} {items : List Item}
    (wellFormed : item.WellFormed enclosing) (others : WellFormedItems enclosing items) :
    WellFormedItems enclosing (joinItem item items) := by
  rcases joinItem_cases item items with ⟨before, after, rest, rfl, rfl, merged⟩ | ⟨apart, kept⟩
  · -- The merged text is followed by what followed the second one.
    obtain ⟨filled, stopped, others⟩ := others
    rw [merged]
    exact ⟨fun empty => filled (String.append_eq_empty_iff.mp empty).2, stopped, others⟩
  · rw [kept]
    exact ⟨wellFormed, apart, others⟩

/-- Well-formed items in front of others give well-formed items. -/
theorem wellFormedItems_joinItems {enclosing : List Char} {first second : List Item}
    (wellFormed : WellFormedItems enclosing first) (others : WellFormedItems enclosing second) :
    WellFormedItems enclosing (joinItems first second) := by
  -- The items are put in front of the others from the last one on.
  induction first with
  | nil => exact others
  | cons item rest ih => exact wellFormedItems_joinItem wellFormed.1 (ih wellFormed.2.2)

/-- Items in front of others are no fewer than one. -/
theorem joinItems_ne_nil {first second : List Item} (filled : first ≠ []) :
    joinItems first second ≠ [] := by
  -- Joining puts an item in front, or makes the first one longer.
  obtain ⟨item, rest, rfl⟩ := List.exists_cons_of_ne_nil filled
  show joinItem item (joinItems rest second) ≠ []
  rcases joinItem_cases item (joinItems rest second) with ⟨_, _, _, _, _, merged⟩ | ⟨_, kept⟩
  · rw [merged]
    exact List.cons_ne_nil _ _
  · rw [kept]
    exact List.cons_ne_nil _ _

/-- The tokens of two templates make up one template. -/
theorem parse_append {before after : List Token} {first second : List Item}
    (parsed : parse before = .ok first) (parsedBehind : parse after = .ok second) :
    parse (before ++ after) = .ok (joinItems first second) := by
  -- What the tokens spell decides, and the joined items are spelled by both.
  obtain ⟨⟨filled, wellFormed⟩, spells⟩ := parse_eq_ok_iff.mp parsed
  obtain ⟨⟨_, others⟩, later⟩ := parse_eq_ok_iff.mp parsedBehind
  exact parse_eq_ok_iff.mpr
    ⟨⟨joinItems_ne_nil filled, wellFormedItems_joinItems wellFormed others⟩, spells.join later⟩

/-- A source with items is not empty. -/
theorem ne_empty_of_itemsOf {source : String} {items : List Item}
    (parsed : itemsOf source = .ok items) : source ≠ "" := by
  rintro rfl
  -- Without characters there are no tokens, and no item is spelled by none.
  obtain ⟨found, scanned, built⟩ := itemsOf_eq_ok_iff.mp parsed
  have nothing : tokens "" = .ok [] := by decide +kernel
  rw [nothing] at scanned
  cases scanned
  cases built

end Template

namespace Render

open Loop Template

/-! ## The texts of a concatenation -/

/-- Texts that are joined with others are joined in any order. -/
theorem zipWith_append_assoc (first second third : List String) :
    List.zipWith (· ++ ·) (List.zipWith (· ++ ·) first second) third =
      List.zipWith (· ++ ·) first (List.zipWith (· ++ ·) second third) := by
  simp only [List.zipWith_zipWith_left, List.zipWith_zipWith_right, String.append_assoc]

/-- Merging the texts at a seam does not change what is rendered. -/
theorem renderItems_joinItem (resolve : Resolve) (stack : Stack) (item : Item)
    (items : List Item) :
    (renderItems resolve (joinItem item items)).outcome stack =
      (renderItems resolve (item :: items)).outcome stack := by
  rcases joinItem_cases item items with ⟨before, after, rest, rfl, rfl, merged⟩ | ⟨_, kept⟩
  · rw [merged]
    simp only [renderItems_cons_outcome, renderItem_text_outcome]
    -- Neither of the two texts can fail, so it is up to the items behind them.
    cases (renderItems resolve rest).outcome stack with
    | error error => rfl
    | ok later =>
      refine congrArg Except.ok ?_
      rw [← List.zipWith_replicate', zipWith_append_assoc]
  · rw [kept]

/-- Merging the texts at the seam of two templates does not change what is rendered. -/
theorem renderItems_joinItems (resolve : Resolve) (stack : Stack) (first second : List Item) :
    (renderItems resolve (joinItems first second)).outcome stack =
      (renderItems resolve (first ++ second)).outcome stack := by
  -- Item by item, a joined text is rendered like the two texts it was made of.
  induction first with
  | nil => rfl
  | cons item rest ih =>
    show (renderItems resolve (joinItem item (joinItems rest second))).outcome stack = _
    rw [renderItems_joinItem, List.cons_append, renderItems_cons_outcome,
      renderItems_cons_outcome, ih]

section Scopes

variable (scope : Scope) (nested : NestedRender)

/-- Items one after the other are rendered one after the other, and their texts joined for each
combination of the loops around them. -/
theorem renderItems_append_outcome (stack : Stack) (first second : List Item) :
    (renderItems (resolve scope nested) (first ++ second)).outcome stack = do
      let texts ← (renderItems (resolve scope nested) first).outcome stack
      let later ← (renderItems (resolve scope nested) second).outcome stack
      return List.zipWith (· ++ ·) texts later := by
  induction first with
  | nil =>
    rw [renderItems_nil_outcome]
    cases rendered : (renderItems (resolve scope nested) second).outcome stack with
    | error error => exact rendered
    | ok later =>
      -- There is one empty text for each of the texts behind.
      have complete := (renderItems_tabulates scope nested second rendered).length_eq
      refine rendered.trans (congrArg Except.ok ?_)
      rw [← complete]
      apply List.ext_getElem <;> simp
  | cons item rest ih =>
    rw [List.cons_append, renderItems_cons_outcome, renderItems_cons_outcome, ih]
    simp only [bind_assoc, pure_bind, zipWith_append_assoc]

end Scopes

/-- What a concatenation comes to, given what its two parts come to. -/
structure Concatenates (before after both : Except RenderError (Option String)) : Prop where
  /-- It succeeds exactly when both parts do. -/
  succeeds_iff : (∃ rendered, both = .ok rendered) ↔
    (∃ rendered, before = .ok rendered) ∧ ∃ rendered, after = .ok rendered
  /-- Its text is that of the first part and then that of the second. -/
  text : ∀ {first second}, before = .ok first → after = .ok second →
    ∃ front back, first = some front ∧ second = some back ∧ both = .ok (some (front ++ back))
  /-- The first part fails before the second one is looked at. -/
  first_fails : ∀ {error}, before = .error error → both = .error error
  /-- Behind a first part that succeeds, the second one fails by itself. -/
  second_fails : ∀ {rendered error}, before = .ok rendered → after = .error error →
    both = .error error

namespace Concatenates

theorem of_texts (front back : String) :
    Concatenates (.ok (some front)) (.ok (some back)) (.ok (some (front ++ back))) := by
  constructor <;> simp

theorem of_first_error (after : Except RenderError (Option String)) (fault : RenderError) :
    Concatenates (.error fault) after (.error fault) := by
  constructor <;> simp

theorem of_second_error (rendered : Option String) (fault : RenderError) :
    Concatenates (.ok rendered) (.error fault) (.error fault) := by
  constructor <;> simp

end Concatenates

/-- Outside all loops, texts that are joined for each combination are two texts that are joined. -/
theorem concatenates_of_single {texts later : Except RenderError (List String)}
    (single : ∀ {found}, texts = .ok found → ∃ text, found = [text])
    (singleBehind : ∀ {found}, later = .ok found → ∃ text, found = [text]) :
    Concatenates (texts >>= fun found => (singleText found).outcome)
      (later >>= fun found => (singleText found).outcome)
      ((do
        let found ← texts
        let behind ← later
        return List.zipWith (· ++ ·) found behind) >>= fun found =>
          (singleText found).outcome) := by
  -- The first failure is that of the whole, and without one there is one text on each side.
  cases texts with
  | error fault => exact .of_first_error _ fault
  | ok found =>
    obtain ⟨front, rfl⟩ := single rfl
    cases later with
    | error fault => exact .of_second_error (some front) fault
    | ok behind =>
      obtain ⟨back, rfl⟩ := singleBehind rfl
      exact .of_texts front back

end Render

namespace Engine

open Render Loop Template

/-- A source with items fails as these do, or has the only text that they have. -/
theorem tryRender_items {source : String} {items : List Item}
    (parsed : itemsOf source = .ok items) (engine : Engine) (payload : Value)
    (definitions : Option Lookup) :
    (engine.tryRender source payload definitions).outcome =
      (renderItems (engine.valuesAt payload definitions 0) items).outcome Stack.empty >>=
        fun texts => (singleText texts).outcome := by
  rw [tryRender_outcome (ne_empty_of_itemsOf parsed), parsed]
  rfl

end Engine

namespace Render

open Loop Template

/-- Templates compose.  Two sources that have items, and whose concatenation has just their tokens,
make up a template.  It is rendered exactly when both of them are, to the text of the first and then
that of the second; and if one of them fails, it fails like the first one that does. -/
theorem templates_compose {first second : String} {items others : List Item}
    (parsed : itemsOf first = .ok items) (parsedBehind : itemsOf second = .ok others)
    (seam : tokens (first ++ second) = do return (← tokens first) ++ (← tokens second)) :
    itemsOf (first ++ second) = .ok (joinItems items others) ∧
      ∀ (engine : Engine) (payload : Value) (definitions : Option Lookup),
        Concatenates (engine.tryRender first payload definitions).outcome
          (engine.tryRender second payload definitions).outcome
          (engine.tryRender (first ++ second) payload definitions).outcome := by
  -- The tokens of both sources follow each other, so their items are joined.
  have joined : itemsOf (first ++ second) = .ok (joinItems items others) := by
    obtain ⟨before, scanned, built⟩ := itemsOf_eq_ok_iff.mp parsed
    obtain ⟨after, scannedBehind, builtBehind⟩ := itemsOf_eq_ok_iff.mp parsedBehind
    rw [scanned, scannedBehind] at seam
    exact itemsOf_eq_ok_iff.mpr ⟨before ++ after, seam, parse_append built builtBehind⟩
  refine ⟨joined, fun engine payload definitions => ?_⟩
  -- The joined items are rendered as the first ones and then the others, and outside of loops there
  -- is one text of each.
  rw [Engine.tryRender_items parsed, Engine.tryRender_items parsedBehind,
    Engine.tryRender_items joined, renderItems_joinItems, Engine.valuesAt,
    renderItems_append_outcome]
  exact concatenates_of_single (renderItems_single _ _) (renderItems_single _ _)

/-- The texts at the seam are merged, and the payload is printed on both sides of them. -/
theorem templates_compose_seam :
    itemsOf "a$\x7bdata\x7dbc$data" =
        .ok [.text "a", .reference "data", .text "bc", .reference "data"] ∧
      (Engine.standard.tryRender "a$\x7bdata\x7dbc$data" (.string "x") none).outcome =
        .ok (some "axbcx") := by
  have parsed : itemsOf "a$\x7bdata\x7db" = .ok [.text "a", .reference "data", .text "b"] :=
    itemsOf_eq_ok_iff.mpr ⟨[.text 'a', .exprStart, .path "data", .exprEnd, .text 'b'],
      by decide +kernel, rfl⟩
  have parsedBehind : itemsOf "c$data" = .ok [.text "c", .reference "data"] :=
    itemsOf_eq_ok_iff.mpr ⟨[.text 'c', .shortcut "data"], by decide +kernel, rfl⟩
  have seam : tokens ("a$\x7bdata\x7db" ++ "c$data") =
      (do return (← tokens "a$\x7bdata\x7db") ++ (← tokens "c$data")) := by
    decide +kernel
  -- The texts at the seam become one item.
  obtain ⟨joined, rendered⟩ := templates_compose parsed parsedBehind seam
  -- Each half is rendered on its own.
  have before : (Engine.standard.tryRender "a$\x7bdata\x7db" (.string "x") none).outcome =
      .ok (some "axb") := by
    rw [Engine.tryRender_items parsed]
    rfl
  have after : (Engine.standard.tryRender "c$data" (.string "x") none).outcome =
      .ok (some "cx") := by
    rw [Engine.tryRender_items parsedBehind]
    rfl
  obtain ⟨_, _, ⟨⟩, ⟨⟩, both⟩ := (rendered Engine.standard (.string "x") none).text before after
  exact ⟨joined, both⟩

end Render

end PayloadTemplate
