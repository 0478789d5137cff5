import PayloadTemplate.Proofs.Render.Interpreter
import PayloadTemplate.Proofs.Template.Parsing

/-!
When rendering succeeds.  Branches that are not chosen and bodies without combinations are looked at
like all others, so every item of a source has a say in it.
-/

namespace PayloadTemplate.Render

open Loop Template

/-! ## The items of a source and the loops around them -/

/-- The loops around an item, innermost first, by their indices and sources. -/
abbrev Enclosing := List (Char × String)

mutual

/-- The items in the bodies of an item, each with the loops around it. -/
def inside (enclosing : Enclosing) : Item → List (Enclosing × Item)
  | .text _ => []
  | .escaped _ => []
  | .reference _ => []
  | .whenTrue _ body => sites enclosing body
  | .whenFalse _ body => sites enclosing body
  | .choice _ accepted refused => sites enclosing accepted ++ sites enclosing refused
  | .loop index source body => sites ((index, source) :: enclosing) body

/-- Items and the items in their bodies, each with the loops around it. -/
def sites (enclosing : Enclosing) : List Item → List (Enclosing × Item)
  | [] => []
  | item :: rest => (enclosing, item) :: (inside enclosing item ++ sites enclosing rest)

end

/-- The path that an item reads for every combination of the loops around it. -/
def readPath? : Item → Option String
  | .reference path => some path
  | .whenTrue condition _ => some condition
  | .whenFalse condition _ => some condition
  | .choice condition _ _ => some condition
  | _ => none

section Conditions

variable (resolve : Resolve)

/-- Whether a source of a loop has, outside all loops, a value that loops may range over. -/
def Iterable (source : String) : Prop :=
  -- The source is resolved without the bindings of the loops around it.
  ∃ value, (resolve source []).outcome = .ok value ∧
    (value.kind = .sequence ∨ value.kind = .map)

/-- The keys that a loop over a source ranges over, if it may. -/
def keysOf (source : String) : List Key :=
  match domainAt resolve source with
  | .ok domain => domain
  | .error _ => []

/-- The loops around an item with their keys. -/
def activeLoops (enclosing : Enclosing) : List ActiveLoop :=
  enclosing.map fun loop => ⟨loop.1.toString, keysOf resolve loop.2⟩

/-- Whether a path has a value under every choice of keys for the loops around it. -/
def Readable (enclosing : Enclosing) (path : String) : Prop :=
  -- Below a loop without keys there is no choice, so nothing is asked there.
  ∀ bindings, Assigns (activeLoops resolve enclosing) bindings →
    ∃ value, (resolve path bindings).outcome = .ok value

/-- Whether the combinations of some loops can be counted in a word. -/
def Countable (enclosing : Enclosing) : Prop :=
  -- The product itself is a natural number and does not overflow.
  (Stack.mk (activeLoops resolve enclosing)).combinationCount < wordValues

instance (enclosing : Enclosing) : Decidable (Countable resolve enclosing) :=
  inferInstanceAs (Decidable (_ < _))

/-- What an item needs inside the loops around it, apart from the items in its bodies. -/
def Sound (enclosing : Enclosing) : Item → Prop
  | .text _ => True
  | .escaped _ => True
  | .reference path => Readable resolve enclosing path
  | .whenTrue condition _ => Readable resolve enclosing condition
  | .whenFalse condition _ => Readable resolve enclosing condition
  | .choice condition _ _ => Readable resolve enclosing condition
  | .loop index source _ =>
    Iterable resolve source ∧ Countable resolve ((index, source) :: enclosing)

/-- A loop has a domain exactly when its source is iterable. -/
theorem exists_domainAt_iff (source : String) :
    (∃ domain, domainAt resolve source = .ok domain) ↔ Iterable resolve source := by
  -- Sequences and maps have keys, and values of all other kinds are refused.
  simp only [domainAt, exists_bind_eq_ok_iff, Iterable]
  refine exists_congr fun value => and_congr_right fun _ => ?_
  cases value with
  | sequence items => simp [domainOf, Value.kind, Pure.pure, Except.pure]
  | map entries => simp [domainOf, Value.kind, Pure.pure, Except.pure]
  | _ => simp [domainOf, Value.kind, MonadExcept.throw, throw, throwThe, MonadExceptOf.throw]

/-- The keys of a loop are those of its domain. -/
theorem keysOf_eq {source : String} {domain : List Key}
    (found : domainAt resolve source = .ok domain) : keysOf resolve source = domain := by
  rw [keysOf, found]

/-- Looking at each combination succeeds when it does for every choice of keys. -/
theorem perCombination_succeeds_iff {α : Type} (compute : Bindings → Rendering α)
    (loops : List ActiveLoop) :
    (∃ results, (perCombination compute).outcome ⟨loops⟩ = .ok results) ↔
      ∀ bindings, Assigns loops bindings →
        ∃ result, (compute bindings).outcome = .ok result := by
  -- The numbers of the combinations stand for the choices of keys.
  simp only [perCombination_outcome, mapM_eq_ok_iff, exists_map_eq_iff, List.mem_range,
    Stack.assigns_iff]
  -- Every choice has a number, and every number below the count makes a choice.
  constructor
  · intro every bindings assigned
    obtain ⟨number, below, rfl⟩ := assigned
    exact every number below
  · intro every number below
    exact every _ ⟨number, below, rfl⟩

/-- A condition is tested for all combinations exactly when its path is readable. -/
theorem truthTable_succeeds_iff (enclosing : Enclosing) (condition : String) :
    (∃ truths, (truthTable resolve condition).outcome ⟨activeLoops resolve enclosing⟩ =
        .ok truths) ↔ Readable resolve enclosing condition := by
  -- Testing a value does not fail.
  simp only [truthTable, perCombination_succeeds_iff, Rendering.outcome_bind,
    exists_bind_eq_ok_iff, Rendering.outcome_pure, Except.ok.injEq, exists_eq', and_true]
  rfl

/-- No loop around an item is active under the name of a new index. -/
theorem isActive_activeLoops {enclosing : Enclosing} {index : Char}
    (fresh : index ∉ enclosing.map Prod.fst) :
    (Stack.mk (activeLoops resolve enclosing)).isActive index.toString = false := by
  -- Different characters are different names.
  rw [Bool.eq_false_iff]
  intro active
  obtain ⟨loop, member, same⟩ := List.any_eq_true.mp active
  obtain ⟨⟨other, source⟩, around, rfl⟩ := List.mem_map.mp member
  have named : other.toString = index.toString := eq_of_beq same
  have equal : other = index := String.singleton_inj.mp named
  exact fresh (List.mem_map.mpr ⟨(other, source), around, equal⟩)

/-- A loop is entered when its index is new and its combinations can be counted. -/
theorem push_activeLoops_iff {enclosing : Enclosing} {index : Char} {source : String}
    {domain : List Key} {inner : Stack} (fresh : index ∉ enclosing.map Prod.fst)
    (countable : (checkedCount (activeLoops resolve enclosing)).isSome)
    (found : domainAt resolve source = .ok domain) :
    (Stack.mk (activeLoops resolve enclosing)).push index.toString domain = .ok inner ↔
      Countable resolve ((index, source) :: enclosing) ∧
        inner = ⟨activeLoops resolve ((index, source) :: enclosing)⟩ := by
  -- The keys of the new loop are those of its domain.
  rw [Stack.push_eq_ok_iff, Stack.checkedCount_isSome_iff countable,
    isActive_activeLoops resolve fresh, ← keysOf_eq resolve found]
  simp only [true_and]
  rfl

mutual

/-- An item is rendered exactly when it is sound and the items in its bodies are. -/
theorem renderItem_succeeds_iff :
    ∀ (item : Item) (enclosing : Enclosing), item.WellFormed (enclosing.map Prod.fst) →
      (checkedCount (activeLoops resolve enclosing)).isSome →
        ((∃ texts, (renderItem resolve item).outcome ⟨activeLoops resolve enclosing⟩ =
            .ok texts) ↔
          Sound resolve enclosing item ∧
            ∀ site ∈ inside enclosing item, Sound resolve site.1 site.2)
  | .text content, enclosing, _, _ => by
    rw [renderItem_text_outcome]
    simp [Sound, inside]
  | .escaped character, enclosing, _, _ => by
    rw [renderItem_escaped_outcome]
    simp [Sound, inside]
  | .reference path, enclosing, _, _ => by
    simp only [renderItem, perCombination_succeeds_iff, Rendering.outcome_bind,
      exists_bind_eq_ok_iff, Rendering.outcome_pure, Except.ok.injEq, exists_eq', and_true,
      inside, List.not_mem_nil, false_implies, implies_true]
    rfl
  | .whenTrue condition body, enclosing, wellFormed, countable => by
    -- The body is rendered whether or not the condition holds.
    obtain ⟨_, bodyWellFormed⟩ := wellFormed
    have bodies := renderItems_succeeds_iff body enclosing bodyWellFormed countable
    have tests := truthTable_succeeds_iff resolve enclosing condition
    simp only [renderItem_whenTrue_outcome, exists_bind_eq_ok_iff, pure_eq_ok_iff, exists_eq',
      and_true, exists_and_right]
    rw [bodies, tests]
    exact And.comm
  | .whenFalse condition body, enclosing, wellFormed, countable => by
    -- The negation only matters once both the body and the condition have succeeded.
    obtain ⟨_, bodyWellFormed⟩ := wellFormed
    have bodies := renderItems_succeeds_iff body enclosing bodyWellFormed countable
    have tests := truthTable_succeeds_iff resolve enclosing condition
    simp only [renderItem_whenFalse_outcome, exists_bind_eq_ok_iff, pure_eq_ok_iff, exists_eq',
      and_true, exists_and_right]
    rw [bodies, tests]
    exact And.comm
  | .choice condition accepted refused, enclosing, wellFormed, countable => by
    -- Both bodies are rendered, whichever is chosen.
    obtain ⟨⟨_, acceptedWellFormed⟩, _, refusedWellFormed⟩ := wellFormed
    have first := renderItems_succeeds_iff accepted enclosing acceptedWellFormed countable
    have second := renderItems_succeeds_iff refused enclosing refusedWellFormed countable
    have tests := truthTable_succeeds_iff resolve enclosing condition
    simp only [renderItem_choice_outcome, exists_bind_eq_ok_iff, pure_eq_ok_iff, exists_eq',
      and_true, exists_and_right]
    rw [first, second, tests, inside, List.forall_mem_append, ← and_assoc]
    exact And.comm
  | .loop index source body, enclosing, wellFormed, countable => by
    obtain ⟨fresh, _, bodyWellFormed⟩ := wellFormed
    simp only [renderItem_loop_outcome, exists_bind_eq_ok_iff, mapError_eq_ok_iff, pure_eq_ok_iff,
      exists_eq', and_true]
    constructor
    · -- A loop that was entered has a domain and can be counted.
      intro succeeds
      obtain ⟨domain, found, inner, entered, rendered⟩ := succeeds
      obtain ⟨counted, rfl⟩ := (push_activeLoops_iff resolve fresh countable found).mp entered
      have bodies := renderItems_succeeds_iff body ((index, source) :: enclosing) bodyWellFormed
        ((Stack.checkedCount_isSome_iff countable).mpr counted)
      exact ⟨⟨(exists_domainAt_iff resolve source).mp ⟨domain, found⟩, counted⟩,
        bodies.mp rendered⟩
    · -- Its index is new, so nothing else keeps the loop from being entered.
      intro sound
      obtain ⟨⟨iterable, counted⟩, sound⟩ := sound
      obtain ⟨domain, found⟩ := (exists_domainAt_iff resolve source).mpr iterable
      have bodies := renderItems_succeeds_iff body ((index, source) :: enclosing) bodyWellFormed
        ((Stack.checkedCount_isSome_iff countable).mpr counted)
      exact ⟨domain, found, _,
        (push_activeLoops_iff resolve fresh countable found).mpr ⟨counted, rfl⟩,
        bodies.mpr sound⟩

/-- Items are rendered exactly when all items in them are sound. -/
theorem renderItems_succeeds_iff :
    ∀ (items : List Item) (enclosing : Enclosing),
      WellFormedItems (enclosing.map Prod.fst) items →
        (checkedCount (activeLoops resolve enclosing)).isSome →
          ((∃ texts, (renderItems resolve items).outcome ⟨activeLoops resolve enclosing⟩ =
              .ok texts) ↔
            ∀ site ∈ sites enclosing items, Sound resolve site.1 site.2)
  | [], enclosing, _, _ => by
    rw [renderItems_nil_outcome]
    simp [sites]
  | item :: rest, enclosing, wellFormed, countable => by
    -- The first item may not fail either, for the others are rendered after it.
    obtain ⟨itemWellFormed, _, restWellFormed⟩ := wellFormed
    have first := renderItem_succeeds_iff item enclosing itemWellFormed countable
    have later := renderItems_succeeds_iff rest enclosing restWellFormed countable
    simp only [renderItems_cons_outcome, exists_bind_eq_ok_iff, pure_eq_ok_iff, exists_eq',
      and_true, exists_and_right]
    rw [first, later, sites, List.forall_mem_cons, List.forall_mem_append, and_assoc]

end

/-- An item is sound exactly when its loop, if it is one, is iterable and countable and the path
that it reads, if it reads one, is readable. -/
theorem sound_iff (enclosing : Enclosing) (item : Item) :
    Sound resolve enclosing item ↔
      (∀ index source body, item = .loop index source body →
        Iterable resolve source ∧ Countable resolve ((index, source) :: enclosing)) ∧
      ∀ path, readPath? item = some path → Readable resolve enclosing path := by
  -- Only a loop is looked at as a loop, and only the others read a path.
  cases item with
  | loop index source body =>
    simp only [Sound, readPath?, reduceCtorEq, false_implies, implies_true, and_true,
      Item.loop.injEq]
    constructor
    · rintro sound _ _ _ ⟨rfl, rfl, rfl⟩
      exact sound
    · intro every
      exact every index source body ⟨rfl, rfl, rfl⟩
  | _ => simp [Sound, readPath?]

end Conditions

/-- The values of paths in the source that a render starts with. -/
def topLevel (engine : Engine) (payload : Value) (definitions : Option Lookup) : Resolve :=
  resolve ⟨payload, definitions, 0⟩ (engine.renderNested ⟨payload, definitions, 0⟩)

/-- A source has a text exactly when the items in it are sound, wherever they stand. -/
theorem tryRender_succeeds_iff_sound {source : String} {items : List Item}
    (nonempty : source ≠ "") (parsed : itemsOf source = .ok items) (engine : Engine)
    (payload : Value) (definitions : Option Lookup) :
    (∃ text, (engine.tryRender source payload definitions).outcome = .ok (some text)) ↔
      ∀ site ∈ sites [] items, Sound (topLevel engine payload definitions) site.1 site.2 := by
  -- No loop is active yet, so all names are new and there is one combination.
  obtain ⟨found, _, built⟩ := itemsOf_eq_ok_iff.mp parsed
  have wellFormed := (parse_eq_ok_iff.mp built).1.2
  have succeeds := renderItems_succeeds_iff (topLevel engine payload definitions) items []
    wellFormed rfl
  rw [← succeeds, Engine.tryRender_outcome nonempty, parsed]
  simp only [bind_eq_ok_iff, Except.ok.injEq, exists_eq_left']
  constructor
  · intro succeeds
    obtain ⟨text, texts, rendered, _⟩ := succeeds
    exact ⟨texts, rendered⟩
  · -- Outside all loops there is one combination and so one text.
    intro succeeds
    obtain ⟨texts, rendered⟩ := succeeds
    obtain ⟨text, rfl⟩ := renderItems_single _ _ rendered
    exact ⟨text, [text], rendered, rfl⟩

/-- A source whose items are all sound has the text that the interpreter gives. -/
theorem tryRender_of_sound {source : String} {items : List Item} (nonempty : source ≠ "")
    (parsed : itemsOf source = .ok items) {engine : Engine} {payload : Value}
    {definitions : Option Lookup}
    (sound : ∀ site ∈ sites [] items,
      Sound (topLevel engine payload definitions) site.1 site.2) {text : String}
    (interpreted : interpretItems ⟨payload, definitions, 0⟩
      (engine.renderNested ⟨payload, definitions, 0⟩) items [] = .ok text) :
    (engine.tryRender source payload definitions).outcome = .ok (some text) := by
  obtain ⟨result, succeeded⟩ :=
    (tryRender_succeeds_iff_sound nonempty parsed engine payload definitions).mpr sound
  obtain ⟨found, printed, again, given, same⟩ := tryRender_interprets nonempty succeeded
  -- A source has its items and its text only once.
  obtain rfl : items = found := Except.ok.inj (parsed.symm.trans again)
  obtain rfl : text = printed := Except.ok.inj (interpreted.symm.trans same)
  rw [succeeded, given]

/-- A source that has items is rendered to a text exactly when every loop in it, also in branches
that are not chosen and under loops without keys, ranges over a sequence or a map, the combinations
of every loop and those around it can be counted in a word, and every path that is printed or tested
has a value under every choice of keys for the loops around it. -/
theorem tryRender_succeeds_iff {source : String} {items : List Item} (nonempty : source ≠ "")
    (parsed : itemsOf source = .ok items) (engine : Engine) (payload : Value)
    (definitions : Option Lookup) :
    (∃ text, (engine.tryRender source payload definitions).outcome = .ok (some text)) ↔
      (∀ enclosing index range body, (enclosing, .loop index range body) ∈ sites [] items →
        Iterable (topLevel engine payload definitions) range) ∧
      (∀ enclosing index range body, (enclosing, .loop index range body) ∈ sites [] items →
        Countable (topLevel engine payload definitions) ((index, range) :: enclosing)) ∧
      ∀ enclosing item path, (enclosing, item) ∈ sites [] items → readPath? item = some path →
        Readable (topLevel engine payload definitions) enclosing path := by
  -- Each condition collects one part of the soundness of the items.
  rw [tryRender_succeeds_iff_sound nonempty parsed]
  simp only [sound_iff]
  constructor
  · intro sound
    refine ⟨?_, ?_, ?_⟩
    · intro enclosing index range body member
      exact ((sound _ member).1 index range body rfl).1
    · intro enclosing index range body member
      exact ((sound _ member).1 index range body rfl).2
    · intro enclosing item path member reads
      exact (sound _ member).2 path reads
  · -- A loop needs the first two conditions, any other item at most the third.
    rintro ⟨iterable, countable, readable⟩ ⟨enclosing, item⟩ member
    constructor
    · rintro index range body rfl
      exact ⟨iterable enclosing index range body member,
        countable enclosing index range body member⟩
    · intro path reads
      exact readable enclosing item path member reads

/-- A loop inside another one. -/
def nestedLoops : String :=
  "$\x7bfor i in data.l\x7d$\x7bfor j in data.x\x7da$\x7bendfor\x7d$\x7bendfor\x7d"

/-- A loop that is never entered still has to range over something.  With something to range over,
the source has a text. -/
theorem tryRender_succeeds_iff_below_empty :
    itemsOf nestedLoops = .ok [.loop 'i' "data.l" [.loop 'j' "data.x" [.text "a"]]] ∧
      (∃ text, (Engine.standard.tryRender nestedLoops
        (.map [("l", .sequence []), ("x", .sequence [.null])]) none).outcome = .ok (some text)) ∧
      ¬∃ text, (Engine.standard.tryRender nestedLoops (.map [("l", .sequence [])]) none).outcome =
        .ok (some text) := by
  have parsed : itemsOf nestedLoops =
      .ok [.loop 'i' "data.l" [.loop 'j' "data.x" [.text "a"]]] := by
    refine itemsOf_eq_ok_iff.mpr ⟨[.exprStart, .keyword .forWord, .index 'i', .keyword .inWord,
      .path "data.l", .exprEnd, .exprStart, .keyword .forWord, .index 'j', .keyword .inWord,
      .path "data.x", .exprEnd, .text 'a', .exprStart, .keyword .endForWord, .exprEnd, .exprStart,
      .keyword .endForWord, .exprEnd], ?_, rfl⟩
    decide +kernel
  refine ⟨parsed, ?_, fun succeeded => ?_⟩
  · refine (tryRender_succeeds_iff (by decide) parsed Engine.standard _ none).mpr ⟨?_, ?_, ?_⟩
    · -- Both sources are sequences.
      intro enclosing index range body member
      obtain ⟨rfl, rfl, rfl, rfl⟩ | ⟨rfl, rfl, rfl, rfl⟩ := by simpa [sites, inside] using member
      · exact ⟨.sequence [], rfl, .inl rfl⟩
      · exact ⟨.sequence [.null], rfl, .inl rfl⟩
    · intro enclosing index range body member
      obtain ⟨rfl, rfl, rfl, rfl⟩ | ⟨rfl, rfl, rfl, rfl⟩ := by simpa [sites, inside] using member
      · decide +kernel
      · decide +kernel
    · -- Neither a loop nor a text reads a path for every combination.
      intro enclosing item path member reads
      obtain ⟨rfl, rfl⟩ | ⟨rfl, rfl⟩ | ⟨rfl, rfl⟩ := by simpa [sites, inside] using member
      all_goals cases reads
  · obtain ⟨iterable, _⟩ := (tryRender_succeeds_iff (by decide) parsed Engine.standard
      (.map [("l", .sequence [])]) none).mp succeeded
    -- The path of the inner source leads nowhere and reads as an empty text.
    obtain ⟨value, read, kind⟩ := iterable [('i', "data.l")] 'j' "data.x" [.text "a"]
      (by simp [sites, inside])
    have nowhere : (topLevel Engine.standard (.map [("l", .sequence [])]) none
        "data.x" []).outcome = .ok (.string "") := rfl
    rw [nowhere] at read
    cases read
    simp [Value.kind] at kind

end PayloadTemplate.Render
