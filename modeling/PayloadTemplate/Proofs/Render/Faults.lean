import PayloadTemplate.Proofs.Render.Resolver
import PayloadTemplate.Proofs.Render.Success

/-!
Where the failure of a render comes from: a path or a loop in the source itself.  Names of loops
that are taken, loops that are left out of turn and combinations that do not exist never occur.
-/

namespace PayloadTemplate.Render

open Loop Template

/-- How an item fails inside the loops around it, apart from the items in its bodies. -/
inductive Fault (resolve : Resolve) (enclosing : Enclosing) : Item → RenderError → Prop where
  /-- Its path cannot be resolved under one choice of keys for the loops around it. -/
  | unreadable {item : Item} {path : String} {bindings : Bindings} {error : RenderError}
      (reads : readPath? item = some path)
      (assigned : Assigns (activeLoops resolve enclosing) bindings)
      (failed : (resolve path bindings).outcome = .error error) : Fault resolve enclosing item error
  /-- The source of its loop cannot be resolved. -/
  | unresolved {index : Char} {source : String} {body : List Item} {error : RenderError}
      (failed : (resolve source []).outcome = .error error) :
      Fault resolve enclosing (.loop index source body) error
  /-- The source of its loop is nothing that loops range over. -/
  | notIterable {index : Char} {source : String} {body : List Item} {value : Value}
      (found : (resolve source []).outcome = .ok value) (refused : domainOf value = none) :
      Fault resolve enclosing (.loop index source body)
        (.resolution (.notIterable source value.kind))
  /-- The combinations of its loop and those around it cannot be counted. -/
  | uncountable {index : Char} {source : String} {body : List Item}
      (overflow : ¬Countable resolve ((index, source) :: enclosing)) :
      Fault resolve enclosing (.loop index source body)
        (.loop (.tooManyCombinations index.toString))

section Origins

variable {resolve : Resolve} {error : RenderError}

/-- Looking at each combination fails only where it does for one choice of keys. -/
theorem perCombination_eq_error {α : Type} {compute : Bindings → Rendering α}
    {loops : List ActiveLoop} (failed : (perCombination compute).outcome ⟨loops⟩ = .error error) :
    ∃ bindings, Assigns loops bindings ∧ (compute bindings).outcome = .error error := by
  -- The number of the combination stands for the choice of keys.
  rw [perCombination_outcome] at failed
  obtain ⟨number, member, fails⟩ := exists_of_mapM_eq_error failed
  exact ⟨_, Stack.assigns_iff.mpr ⟨number, List.mem_range.mp member, rfl⟩, fails⟩

/-- Converting a result does not fail. -/
theorem converted_eq_error {α β : Type} {computation : Rendering α} {convert : α → β}
    (failed : (do return convert (← computation) : Rendering β).outcome = .error error) :
    computation.outcome = .error error := by
  -- The conversion itself does not fail.
  rw [Rendering.outcome_bind] at failed
  rcases bind_eq_error_iff.mp failed with first | ⟨_, _, converted⟩
  · exact first
  · cases converted

/-- Testing a condition fails only where its path cannot be resolved. -/
theorem truthTable_eq_error {condition : String} {loops : List ActiveLoop}
    (failed : (truthTable resolve condition).outcome ⟨loops⟩ = .error error) :
    ∃ bindings, Assigns loops bindings ∧ (resolve condition bindings).outcome = .error error := by
  -- The test of a value that is there does not fail.
  obtain ⟨bindings, assigned, fails⟩ := perCombination_eq_error failed
  exact ⟨bindings, assigned, converted_eq_error fails⟩

/-- A loop without a domain is at fault. -/
theorem domainAt_eq_error {enclosing : Enclosing} {index : Char} {source : String}
    {body : List Item} (failed : domainAt resolve source = .error error) :
    Fault resolve enclosing (.loop index source body) error := by
  -- Either there is no value, or it has no keys.
  rcases bind_eq_error_iff.mp failed with unresolved | ⟨value, found, refused⟩
  · exact .unresolved unresolved
  · cases keys : domainOf value with
    | some domain => simp [keys, Pure.pure, Except.pure] at refused
    | none =>
      simp only [keys] at refused
      cases refused
      exact .notIterable found keys

/-- A loop with a new index is refused only for its combinations. -/
theorem push_activeLoops_eq_error {enclosing : Enclosing} {index : Char} {source : String}
    {domain : List Key} {body : List Item} (fresh : index ∉ enclosing.map Prod.fst)
    (countable : (checkedCount (activeLoops resolve enclosing)).isSome)
    (found : domainAt resolve source = .ok domain)
    (refused : ((Stack.mk (activeLoops resolve enclosing)).push index.toString domain).mapError
      RenderError.loop = .error error) :
    Fault resolve enclosing (.loop index source body) error := by
  -- The stack takes the loop, or its name is active, or there are too many combinations.
  cases pushed : (Stack.mk (activeLoops resolve enclosing)).push index.toString domain with
  | ok inner =>
    rw [pushed, mapError_ok] at refused
    cases refused
  | error fault =>
    rw [pushed, mapError_error] at refused
    cases refused
    rcases Stack.push_eq_error_iff.mp pushed with ⟨active, _⟩ | ⟨_, overflow, rfl⟩
    · -- The name would have to be that of a loop around the item.
      rw [isActive_activeLoops resolve fresh] at active
      cases active
    · refine .uncountable fun counted => ?_
      have inside : (checkedCount (⟨index.toString, keysOf resolve source⟩ ::
          activeLoops resolve enclosing)).isSome = true :=
        (Stack.checkedCount_isSome_iff countable).mpr counted
      rw [keysOf_eq resolve found, overflow] at inside
      cases inside

/-- Where the failure of bodies and of the condition that is tested after them comes from. -/
theorem tested_eq_error {α β : Type} {bodies : Except RenderError α} {condition : String}
    {loops : List ActiveLoop} {pick : List Bool → α → β}
    (failed : (do
      let texts ← bodies
      let truths ← (truthTable resolve condition).outcome ⟨loops⟩
      return pick truths texts) = Except.error error) :
    bodies = .error error ∨
      ∃ bindings, Assigns loops bindings ∧ (resolve condition bindings).outcome = .error error := by
  -- Picking does not fail.
  rcases bind_eq_error_iff.mp failed with inside | ⟨_, _, later⟩
  · exact .inl inside
  · rcases bind_eq_error_iff.mp later with tested | ⟨_, _, picked⟩
    · exact .inr (truthTable_eq_error tested)
    · cases picked

mutual

/-- The failure of an item is its own or that of an item in its bodies. -/
theorem renderItem_eq_error :
    ∀ (item : Item) {enclosing : Enclosing}, item.WellFormed (enclosing.map Prod.fst) →
      (checkedCount (activeLoops resolve enclosing)).isSome →
        (renderItem resolve item).outcome ⟨activeLoops resolve enclosing⟩ = .error error →
          Fault resolve enclosing item error ∨
            ∃ site ∈ inside enclosing item, Fault resolve site.1 site.2 error
  | .text content, enclosing, _, _, failed => by
    rw [renderItem_text_outcome] at failed
    cases failed
  | .escaped character, enclosing, _, _, failed => by
    rw [renderItem_escaped_outcome] at failed
    cases failed
  | .reference path, enclosing, _, _, failed => by
    -- Turning the value into text does not fail.
    rw [renderItem] at failed
    obtain ⟨bindings, assigned, fails⟩ := perCombination_eq_error failed
    exact .inl (.unreadable rfl assigned (converted_eq_error fails))
  | .whenTrue condition body, enclosing, wellFormed, countable, failed => by
    -- The body is rendered before the condition is tested.
    rw [renderItem_whenTrue_outcome] at failed
    rcases tested_eq_error failed with inside | ⟨bindings, assigned, fails⟩
    · exact .inr (renderItems_eq_error body wellFormed.2 countable inside)
    · exact .inl (.unreadable rfl assigned fails)
  | .whenFalse condition body, enclosing, wellFormed, countable, failed => by
    rw [renderItem_whenFalse_outcome] at failed
    rcases tested_eq_error failed with inside | ⟨bindings, assigned, fails⟩
    · exact .inr (renderItems_eq_error body wellFormed.2 countable inside)
    · exact .inl (.unreadable rfl assigned fails)
  | .choice condition accepted refused, enclosing, wellFormed, countable, failed => by
    -- Both bodies are rendered before the condition is tested.
    obtain ⟨⟨_, acceptedWellFormed⟩, _, refusedWellFormed⟩ := wellFormed
    rw [renderItem_choice_outcome] at failed
    rcases bind_eq_error_iff.mp failed with first | ⟨_, _, later⟩
    · obtain ⟨site, member, fault⟩ :=
        renderItems_eq_error accepted acceptedWellFormed countable first
      exact .inr ⟨site, List.mem_append_left _ member, fault⟩
    · rcases tested_eq_error later with second | ⟨bindings, assigned, fails⟩
      · obtain ⟨site, member, fault⟩ :=
          renderItems_eq_error refused refusedWellFormed countable second
        exact .inr ⟨site, List.mem_append_right _ member, fault⟩
      · exact .inl (.unreadable rfl assigned fails)
  | .loop index source body, enclosing, wellFormed, countable, failed => by
    obtain ⟨fresh, _, bodyWellFormed⟩ := wellFormed
    rw [renderItem_loop_outcome] at failed
    -- The loop may have nothing to range over, or it may not be entered.
    rcases bind_eq_error_iff.mp failed with missing | ⟨domain, found, later⟩
    · exact .inl (domainAt_eq_error missing)
    rcases bind_eq_error_iff.mp later with refused | ⟨inner, entered, last⟩
    · exact .inl (push_activeLoops_eq_error fresh countable found refused)
    -- The loop was entered, so its body was rendered under one loop more.
    obtain ⟨counted, rfl⟩ :=
      (push_activeLoops_iff resolve fresh countable found).mp (mapError_eq_ok_iff.mp entered)
    rcases bind_eq_error_iff.mp last with inside | ⟨_, _, joined⟩
    · exact .inr (renderItems_eq_error body bodyWellFormed
        ((Stack.checkedCount_isSome_iff countable).mpr counted) inside)
    · cases joined

/-- The failure of items is that of an item in them. -/
theorem renderItems_eq_error :
    ∀ (items : List Item) {enclosing : Enclosing},
      WellFormedItems (enclosing.map Prod.fst) items →
        (checkedCount (activeLoops resolve enclosing)).isSome →
          (renderItems resolve items).outcome ⟨activeLoops resolve enclosing⟩ = .error error →
            ∃ site ∈ sites enclosing items, Fault resolve site.1 site.2 error
  | [], enclosing, _, _, failed => by
    rw [renderItems_nil_outcome] at failed
    cases failed
  | item :: rest, enclosing, wellFormed, countable, failed => by
    obtain ⟨itemWellFormed, _, restWellFormed⟩ := wellFormed
    rw [renderItems_cons_outcome] at failed
    rcases bind_eq_error_iff.mp failed with first | ⟨_, _, later⟩
    -- The first item is at fault, or an item in its bodies.
    · rcases renderItem_eq_error item itemWellFormed countable first with own | inner
      · exact ⟨(enclosing, item), List.mem_cons_self, own⟩
      · obtain ⟨site, member, fault⟩ := inner
        exact ⟨site, List.mem_cons_of_mem _ (List.mem_append_left _ member), fault⟩
    rcases bind_eq_error_iff.mp later with others | ⟨_, _, joined⟩
    -- The first item has been rendered, so one of the others is at fault.
    · obtain ⟨site, member, fault⟩ := renderItems_eq_error rest restWellFormed countable others
      exact ⟨site, List.mem_cons_of_mem _ (List.mem_append_right _ member), fault⟩
    · cases joined

end

end Origins

/-! ## Whole sources -/

section Sources

variable {limit allowance depth : Nat} {payload : Value} {definitions : Option Lookup}
  {source : String} {error : RenderError}

/-- A source fails because it cannot be read or because of an item in it. -/
theorem renderWithin_eq_error (nonempty : source ≠ "")
    (failed : (renderWithin limit payload definitions (allowance + 1) depth source).outcome =
      .error error) :
    itemsOf source = .error error ∨
      ∃ items, itemsOf source = .ok items ∧
        ∃ site ∈ sites [] items, Fault (resolve ⟨payload, definitions, depth⟩
          (renderWithin limit payload definitions allowance (depth + 1))) site.1 site.2 error := by
  rw [renderWithin_outcome nonempty] at failed
  rcases bind_eq_error_iff.mp failed with unread | ⟨items, parsed, later⟩
  · exact .inl unread
  · refine .inr ⟨items, parsed, ?_⟩
    obtain ⟨found, _, built⟩ := itemsOf_eq_ok_iff.mp parsed
    rcases bind_eq_error_iff.mp later with unrendered | ⟨texts, rendered, several⟩
    · -- Outside all loops, all names are new and there is one combination.
      exact renderItems_eq_error items (parse_eq_ok_iff.mp built).1.2 rfl unrendered
    · -- The one text that there is is accepted.
      obtain ⟨text, rfl⟩ := renderItems_single _ _ rendered
      cases several

/-- Whether a render may end with an error.  Its loops are entered and left in turn, and its texts
are one. -/
def Possible : RenderError → Prop
  | .loop (.tooManyCombinations _) => True
  | .loop _ => False
  | .branching _ => False
  | _ => True

/-- Fatal errors are possible. -/
theorem possible_of_isFatal (fatal : error.isFatal = true) : Possible error := by
  -- The only fatal error is about variables.
  cases error with
  | recursionLimit limit => trivial
  | _ => cases fatal

/-- An item fails in a possible way. -/
theorem Fault.possible {scope : Scope} {nested : NestedRender} {enclosing : Enclosing}
    {item : Item} (fault : Fault (resolve scope nested) enclosing item error) :
    Possible error := by
  -- Resolution has errors of its own and hands on fatal ones.
  have resolution : ∀ {path bindings},
      (resolve scope nested path bindings).outcome = .error error → Possible error := by
    intro path bindings failed
    rcases (resolve_eq_error failed).kind with ⟨cause, rfl⟩ | fatal
    · trivial
    · exact possible_of_isFatal fatal
  cases fault with
  | unreadable _ _ failed => exact resolution failed
  | unresolved failed => exact resolution failed
  | notIterable _ _ => trivial
  | uncountable _ => trivial

/-- Every render that fails, at whatever depth, fails in a possible way. -/
theorem renderWithin_possible :
    ∀ {allowance : Nat}, (renderWithin limit payload definitions allowance depth source).outcome =
      .error error → Possible error
  | 0, failed => by
    -- Beyond the limit only an empty source has a result.
    unfold renderWithin at failed
    split at failed
    · cases failed
    · cases failed
      trivial
  | allowance + 1, failed => by
    by_cases nonempty : source = ""
    · subst nonempty
      cases failed
    rcases renderWithin_eq_error nonempty failed with unread | ⟨_, _, _, _, fault⟩
    -- The scanner and the parser do not deal with loops.
    · rcases itemsOf_eq_error unread with ⟨_, rfl⟩ | ⟨_, rfl⟩
      · trivial
      · trivial
    · exact fault.possible

end Sources

end PayloadTemplate.Render
