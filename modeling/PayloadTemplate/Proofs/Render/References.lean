import PayloadTemplate.Proofs.Render.Recursion
import PayloadTemplate.Proofs.Template.Scanning

/-!
What a render reads of its variables.  Only those that its source refers to matter, directly or by
way of others, and a source refers to no names but those that are spelled in it.
-/

namespace PayloadTemplate

namespace Template

/-! ## Names in a source -/

/-- The characters of a token stand in the text that it is scanned from. -/
theorem SpelledOut.mem_text {mode : Mode} {tokens : List Token} {text : List Char}
    (spelled : SpelledOut mode tokens text) {token : Token} (member : token ∈ tokens)
    {character : Char} (inside : character ∈ token.lexeme) : character ∈ text := by
  -- The text consists of the lexemes and of spaces.
  induction spelled with
  | done => cases member
  | space _ ih => exact List.mem_cons_of_mem _ (ih member)
  | token _ ih =>
    obtain rfl | later := List.mem_cons.mp member
    · exact List.mem_append_left _ inside
    · exact List.mem_append_right _ (ih later)

/-- The characters of a source's tokens stand in the source. -/
theorem mem_source_of_mem_lexeme {source : String} {found : List Token}
    (scanned : tokens source = .ok found) {token : Token} (member : token ∈ found)
    {character : Char} (inside : character ∈ token.lexeme) : character ∈ source.toList := by
  -- A scan that ends without a fault has taken all of the source.
  obtain ⟨spelled, whole, spells⟩ := scanFrom_spells .literal none source.toList
  have scans : scanFrom .literal none source.toList = ⟨found, none⟩ := tokens_eq_ok_iff.mp scanned
  rw [scans] at whole spells
  rw [whole]
  exact List.mem_append_left _ (spells.mem_text member inside)

/-- Whether a path is that of a token. -/
def Mentions (tokens : List Token) (path : String) : Prop :=
  .shortcut path ∈ tokens ∨ .path path ∈ tokens

/-- A path of some tokens is one of all. -/
theorem Mentions.among {tokens all : List Token} {path : String} (mentions : Mentions tokens path)
    (part : ∀ token ∈ tokens, token ∈ all) : Mentions all path :=
  mentions.imp (part _) (part _)

/-- The paths of items are those of the tokens that spell them. -/
theorem Spells.mentions {items : List Item} {tokens : List Token} (spells : Spells items tokens)
    {enclosing : Render.Enclosing} {site : Render.Enclosing × Item}
    (member : site ∈ Render.sites enclosing items) {path : String}
    (refers : Render.pathOf? site.2 = some path) : Mentions tokens path := by
  -- A path is that of the first item, of an item in one of its bodies, or of an item behind it.
  induction spells generalizing enclosing with
  | nil => cases member
  | text _ ih | escaped _ _ ih =>
    obtain rfl | later := List.mem_cons.mp member
    · cases refers
    · exact (ih later).among fun token inside => by simp [inside]
  | shortcut _ ih | braced _ ih =>
    obtain rfl | later := List.mem_cons.mp member
    · cases refers
      simp [Mentions]
    · exact (ih later).among fun token inside => by simp [inside]
  | whenTrue _ _ ihBody ih | whenFalse _ _ ihBody ih | loop _ _ ihBody ih =>
    rw [Render.sites, Render.inside, List.mem_cons, List.mem_append] at member
    obtain rfl | within | later := member
    · cases refers
      simp [Mentions]
    · exact (ihBody within).among fun token inside => by simp [inside]
    · exact (ih later).among fun token inside => by simp [inside]
  | choice _ _ _ ihFirst ihSecond ih =>
    rw [Render.sites, Render.inside, List.mem_cons, List.mem_append, List.mem_append] at member
    obtain rfl | (first | second) | later := member
    · cases refers
      simp [Mentions]
    · -- A path of the first branch stands between the condition and the word that divides the
      -- block.
      exact (ihFirst first).among fun token inside => by simp [inside]
    · exact (ihSecond second).among fun token inside => by simp [inside]
    · exact (ih later).among fun token inside => by simp [inside]

end Template

namespace Render

open Loop Template

/-- The name in a path is a part of it. -/
theorem mem_path_of_mem_pathName {path : String} {character : Char}
    (inside : character ∈ (pathName path).toList) : character ∈ path.toList := by
  -- The name is what stands behind the first dot, or the whole path.
  unfold pathName at inside
  split at inside
  · rename_i sign name split
    rw [String.toList_ofList] at inside
    exact (List.dropWhile_suffix _).subset (split ▸ List.mem_cons_of_mem _ inside)
  · exact inside

/-- A source refers to no names but those that are spelled in it. -/
theorem Refers.mem_source {source name : String} (refers : Refers source name) {character : Char}
    (inside : character ∈ name.toList) : character ∈ source.toList := by
  obtain ⟨items, parsed, site, member, path, reads, _, rfl⟩ := refers
  obtain ⟨found, scanned, built⟩ := itemsOf_eq_ok_iff.mp parsed
  -- The name stands on its path, the path in a token, and the token in the source.
  have onPath := mem_path_of_mem_pathName inside
  obtain shortcut | braced := (parse_eq_ok_iff.mp built).2.mentions member reads
  · exact mem_source_of_mem_lexeme scanned shortcut (List.mem_cons_of_mem _ onPath)
  · exact mem_source_of_mem_lexeme scanned braced onPath

/-! ## Renders that look up the same -/

section Items

variable {first second : Resolve}

/-- Whether the paths of items have the same values. -/
def Agree (first second : Resolve) (sites : List (Enclosing × Item)) : Prop :=
  ∀ site ∈ sites, ∀ path, pathOf? site.2 = some path → first path = second path

/-- Of items that agree, all in a part of them do. -/
theorem Agree.among {some all : List (Enclosing × Item)} (agree : Agree first second all)
    (part : ∀ site ∈ some, site ∈ all) : Agree first second some :=
  fun site member => agree site (part site member)

mutual

/-- An item is rendered in the same way if its paths have the same values. -/
theorem renderItem_congr (enclosing : Enclosing) :
    ∀ item : Item, Agree first second ((enclosing, item) :: inside enclosing item) →
      renderItem first item = renderItem second item
  | .text content, _ => by rw [renderItem, renderItem]
  | .escaped character, _ => by rw [renderItem, renderItem]
  | .reference path, agree => by
    rw [renderItem, renderItem, agree _ List.mem_cons_self path rfl]
  | .whenTrue condition body, agree => by
    -- A block looks at the path of its condition and leaves the rest to its body.
    have truths := agree _ List.mem_cons_self condition rfl
    rw [renderItem, renderItem, truthTable, truthTable, truths,
      renderItems_congr _ body (agree.among fun site => List.mem_cons_of_mem _)]
  | .whenFalse condition body, agree => by
    have truths := agree _ List.mem_cons_self condition rfl
    rw [renderItem, renderItem, truthTable, truthTable, truths,
      renderItems_congr _ body (agree.among fun site => List.mem_cons_of_mem _)]
  | .choice condition accepted refused, agree => by
    have truths := agree _ List.mem_cons_self condition rfl
    rw [renderItem, renderItem, truthTable, truthTable, truths,
      renderItems_congr enclosing accepted
        (agree.among fun site member => by simp [inside, member]),
      renderItems_congr enclosing refused
        (agree.among fun site member => by simp [inside, member])]
  | .loop index source body, agree => by
    have keys := agree _ List.mem_cons_self source rfl
    rw [renderItem, renderItem, loopDomain, loopDomain, keys,
      renderItems_congr _ body (agree.among fun site => List.mem_cons_of_mem _)]

/-- Items are rendered in the same way if their paths have the same values. -/
theorem renderItems_congr (enclosing : Enclosing) :
    ∀ items : List Item, Agree first second (sites enclosing items) →
      renderItems first items = renderItems second items
  | [], _ => by rw [renderItems, renderItems]
  | item :: rest, agree => by
    rw [renderItems, renderItems,
      renderItem_congr enclosing item (agree.among fun site member => by
        rw [sites, ← List.cons_append]
        exact List.mem_append_left _ member),
      renderItems_congr enclosing rest (agree.among fun site member => by simp [sites, member])]

end

end Items

/-- Two computations go on in the same way if they do so with every result of their first part. -/
theorem bind_congr_of_outcome {α β : Type} {first : Rendering α} {next other : α → Rendering β}
    (same : ∀ value, first.outcome = .ok value → next value = other value) :
    first >>= next = first >>= other := by
  apply ExceptT.ext
  rw [ExceptT.run_bind, ExceptT.run_bind]
  -- What comes next depends on the result of the first part alone.
  cases outcome : first.run.value with
  | error error => apply Logged.ext <;> simp [outcome]
  | ok value =>
    have next := same value outcome
    apply Logged.ext <;> simp [outcome, next]

section Sources

variable {limit depth : Nat} {payload : Value} {lookup other : Lookup}

/-- A path has the same values if a variable that it refers to has the same template, and that is
rendered in the same way. -/
theorem resolve_congr {nested later : NestedRender} {path : String}
    (same : pathRoot path = "config" → lookup (pathName path) = other (pathName path) ∧
      ∀ template, lookup (pathName path) = some template → nested template = later template) :
    resolve ⟨payload, some lookup, depth⟩ nested path =
      resolve ⟨payload, some other, depth⟩ later path := by
  funext bindings
  rw [resolve, resolve]
  -- Paths into the payload and to the keys of loops look nothing up.
  split
  · rfl
  split
  · rename_i root
    -- Both tables have the same template, and it is rendered to the same value.
    obtain ⟨found, rendered⟩ := same root
    simp only [resolveVariable, ← found]
    cases known : lookup (pathName path) with
    | none => rfl
    | some template =>
      dsimp only [renderVariable]
      rw [rendered template known]
      rfl
  · rfl

/-- Sources are rendered in the same way with the variables of two tables if these agree in all
variables that the sources refer to, and their templates are such sources again. -/
theorem renderWithin_congr {among : String → Prop}
    (agree : ∀ source, among source → ∀ name, Refers source name → lookup name = other name ∧
      ∀ template, lookup name = some template → among template) :
    ∀ (allowance depth : Nat) (source : String), among source →
      renderWithin limit payload (some lookup) allowance depth source =
        renderWithin limit payload (some other) allowance depth source := by
  intro allowance
  -- The induction is on the allowance: a variable's template is rendered with less of it.
  induction allowance with
  | zero => intros; rfl
  | succ allowance ih =>
    intro depth source member
    rw [renderWithin, renderWithin]
    split
    · rfl
    · congr 1
      refine bind_congr_of_outcome fun tokens scanned => bind_congr_of_outcome fun items built => ?_
      -- What the source refers to is seen from its items.
      have parsed : itemsOf source = .ok items := by
        rw [itemsOf, Rendering.outcome_bind, scanned]
        exact built
      have values : Agree
          (resolve ⟨payload, some lookup, depth⟩
            (renderWithin limit payload (some lookup) allowance (depth + 1)))
          (resolve ⟨payload, some other, depth⟩
            (renderWithin limit payload (some other) allowance (depth + 1)))
          (sites [] items) := by
        intro site here path reads
        refine resolve_congr fun root => ?_
        -- The name is one that the source refers to, so the tables agree on it.
        obtain ⟨found, closed⟩ :=
          agree source member _ ⟨items, parsed, site, here, path, reads, root, rfl⟩
        exact ⟨found, fun template known => ih (depth + 1) template (closed template known)⟩
      dsimp only
      rw [renderItems_congr [] items values]

end Sources

end Render

end PayloadTemplate
