import Mathlib.Data.Fintype.EquivFin
import PayloadTemplate.Proofs.Variables.Runs

/-!
Tables that bring a parent with them.  The place of a parent means nothing in another registry, and
nothing looks at it when a table is added; whether every way up still comes to an end depends on
whether a table of the registry stands at that place already.
-/

namespace PayloadTemplate.Variables.Registry

open Relation

/-! ## Registries without dangling parents and cycles -/

/-- Every parent is a table of the registry, and no table inherits from itself. -/
structure Sound (registry : Registry) : Prop where
  /-- There is a table at the place of every parent. -/
  present : ∀ child parent, registry.Inherits child parent → (registry.get? parent).isSome
  /-- No way up leads back. -/
  acyclic : registry.Acyclic

section Soundness

variable {registry : Registry}

/-- Where every table has a way up to one without a parent, nothing dangles and nothing is
circular. -/
theorem sound_of_chains
    (chains : ∀ id, (registry.get? id).isSome → ∃ chain, registry.Chain id chain) :
    registry.Sound where
  present := fun child parent inherits => by
    obtain ⟨chain, whole⟩ := chains child (by
      obtain ⟨table, found, _⟩ := inherits
      simp [found])
    -- The way of the parent begins with the parent.
    obtain ⟨_, _, _, rest⟩ := whole.above inherits
    cases rest with
    | root found _ => simp [found]
    | link found _ _ => simp [found]
  acyclic := acyclic_of_chains chains

/-- Without cycles, going up from one of finitely many tables to the next comes to an end. -/
theorem Acyclic.wellFounded (acyclic : registry.Acyclic) :
    WellFounded fun above below : Fin registry.size =>
      TransGen registry.Inherits ⟨below⟩ ⟨above⟩ := by
  -- There are finitely many tables, and none of them is above itself.
  have transitive : IsTrans (Fin registry.size) fun above below =>
      TransGen registry.Inherits ⟨below⟩ ⟨above⟩ := ⟨fun _ _ _ upper lower => lower.trans upper⟩
  have irreflexive : Std.Irrefl fun above below : Fin registry.size =>
      TransGen registry.Inherits ⟨below⟩ ⟨above⟩ := ⟨fun place => acyclic ⟨place⟩⟩
  exact Finite.wellFounded_of_trans_of_irrefl _

/-- From every table of a sound registry there is a way up to one without a parent. -/
theorem Sound.exists_chain (sound : registry.Sound) {id : TableId}
    (here : (registry.get? id).isSome) : ∃ chain, registry.Chain id chain := by
  obtain ⟨place⟩ := id
  have below : place < registry.size := get?_isSome_iff.mp here
  -- The induction goes up through the parents.
  refine sound.acyclic.wellFounded.induction
    (C := fun place => ∃ chain, registry.Chain ⟨place⟩ chain) ⟨place, below⟩ ?_
  intro place higher
  have here : (registry.get? ⟨place⟩).isSome := get?_isSome_iff.mpr place.isLt
  obtain ⟨table, found⟩ := Option.isSome_iff_exists.mp here
  cases linked : table.parent with
  | none => exact ⟨_, .root found linked⟩
  | some parent =>
    -- The parent is known, and it stands above this table.
    have inherits : registry.Inherits ⟨place⟩ parent := ⟨table, found, linked⟩
    have bound := get?_isSome_iff.mp (sound.present _ _ inherits)
    obtain ⟨above, rest⟩ := higher ⟨parent.position, bound⟩ (.single inherits)
    exact ⟨_, .link found linked rest⟩

/-- In a sound registry every search comes to an end. -/
theorem Sound.searches {α : Type} (sound : registry.Sound) {id : TableId}
    (here : (registry.get? id).isSome) (pick : TableId × Table → Option α) :
    ∃ answer, registry.Searches pick id answer := by
  obtain ⟨chain, whole⟩ := sound.exists_chain here
  exact ⟨_, whole.searches pick⟩

end Soundness

/-! ## Adding a table as it is -/

section Adding

variable {registry : Registry} {table : Table}

/-- The table that is added stands behind all others. -/
theorem get?_added_size : (registry.added table).get? ⟨registry.size⟩ = some table := by
  rw [get?_added, if_pos rfl]

/-- A place of the larger registry is one of the smaller one or that of the added table. -/
theorem get?_added_isSome {id : TableId} (here : ((registry.added table).get? id).isSome) :
    (registry.get? id).isSome ∨ id = ⟨registry.size⟩ := by
  -- Only the last place is new.
  by_cases last : id = ⟨registry.size⟩
  · exact .inr last
  · rw [get?_added, if_neg last] at here
    exact .inl here

/-- A sound registry stays sound if the parent of the added table is one of its tables. -/
theorem Sound.added (sound : registry.Sound)
    (known : ∀ parent, table.parent = some parent → (registry.get? parent).isSome) :
    (registry.added table).Sound := by
  refine sound_of_chains fun id here => ?_
  obtain old | rfl := get?_added_isSome here
  · -- The other tables keep their ways.
    obtain ⟨chain, whole⟩ := sound.exists_chain old
    exact ⟨chain, whole.added table⟩
  · -- The added one goes on with the way of its parent.
    cases linked : table.parent with
    | none => exact ⟨_, .root get?_added_size linked⟩
    | some parent =>
      obtain ⟨chain, whole⟩ := sound.exists_chain (known parent linked)
      exact ⟨_, .link get?_added_size linked (whole.added table)⟩

/-- Where the added table leaves the registry sound, its parent is one of the other tables. -/
theorem known_of_sound_added (sound : (registry.added table).Sound) {parent : TableId}
    (linked : table.parent = some parent) : (registry.get? parent).isSome := by
  have inherits : (registry.added table).Inherits ⟨registry.size⟩ parent :=
    ⟨table, get?_added_size, linked⟩
  obtain old | rfl := get?_added_isSome (sound.present _ _ inherits)
  · exact old
  · -- The table would be its own parent.
    exact absurd (.single inherits) (sound.acyclic _)

/-- A search that the added table has no answer for does not end if its parent is none of the other
tables. -/
theorem not_searches_added {α : Type} {pick : TableId × Table → Option α} {parent : TableId}
    (linked : table.parent = some parent) (unknown : ¬(registry.get? parent).isSome)
    (silent : pick (⟨registry.size⟩, table) = none) (answer : Option α) :
    ¬(registry.added table).Searches pick ⟨registry.size⟩ answer := by
  intro searches
  -- The search moves on to the parent, where it is back again or at no table at all.
  generalize start : (⟨registry.size⟩ : TableId) = place at searches
  induction searches with
  | found here picked =>
    subst start
    obtain rfl := Option.some.inj (get?_added_size.symm.trans here)
    rw [silent] at picked
    cases picked
  | top here _ last =>
    subst start
    obtain rfl := Option.some.inj (get?_added_size.symm.trans here)
    rw [linked] at last
    cases last
  | @up _ above _ _ here _ higher later ih =>
    subst start
    obtain rfl := Option.some.inj (get?_added_size.symm.trans here)
    obtain rfl : parent = above := Option.some.inj (linked.symm.trans higher)
    -- Wherever the search has ended, it has found the parent.
    have found : ((registry.added table).get? parent).isSome := by
      cases later with
      | found here _ | top here _ _ | up here _ _ _ => simp [here]
    obtain old | same := get?_added_isSome found
    · exact unknown old
    · exact ih same.symm

end Adding

/-- A table of a new name is added to a sound registry as it is.  The result is sound exactly when a
parent that the table brings with it is a table of the registry, as is the case for every table of
entries, which brings none.  In a sound result every search comes to an end; in any other none does
that begins at the added table and has no answer there. -/
theorem insert_sound_iff {registry : Registry} {table : Table} (sound : registry.Sound)
    (fresh : registry.idOf? table.name = none) :
    ∃ result id, (insert table).result registry = (.ok id, result) ∧
      (result.Sound ↔
        ∀ parent, table.parent = some parent → (registry.get? parent).isSome) ∧
      (∀ title entries, table = .ofEntries title entries → result.Sound) ∧
      (result.Sound → ∀ place, (result.get? place).isSome →
        ∀ (α : Type) (pick : TableId × Table → Option α),
          ∃ answer, result.Searches pick place answer) ∧
      (¬result.Sound → ∀ (α : Type) (pick : TableId × Table → Option α),
        pick (id, table) = none → ∀ answer, ¬result.Searches pick id answer) := by
  refine ⟨registry.added table, ⟨registry.size⟩, insert_eq_ok_iff.mpr ⟨fresh, rfl, rfl⟩,
    ⟨fun kept parent linked => known_of_sound_added kept linked, sound.added⟩, ?_, ?_, ?_⟩
  · -- Tables made of entries have no parent yet.
    rintro title entries rfl
    refine sound.added fun parent linked => ?_
    rw [Table.ofEntries_parent] at linked
    cases linked
  · exact fun kept place here α pick => kept.searches here pick
  · intro broken α pick silent answer
    -- Otherwise the parent would be known.
    have unknown : ¬∀ parent, table.parent = some parent → (registry.get? parent).isSome :=
      fun known => broken (sound.added known)
    push Not at unknown
    obtain ⟨parent, linked, unknown⟩ := unknown
    exact not_searches_added linked (by simpa using unknown) silent answer

/-- A section that inherits from the table at the first place. -/
def heir : Table where
  name := "push"
  parent := some ⟨0⟩

/-- Two empty sections, the second of which inherits from the first. -/
def estate : Registry :=
  ofTables [{ name := "default" }, heir]

/-- The registry of the two sections. -/
theorem ofSections_estate : ofSections [("default", []), ("push", [])] = .ok estate := by
  decide +kernel

/-- A third section is added without a parent, and a search for what none of them defines ends. -/
theorem insert_sound_iff_estate :
    estate.Sound ∧
      estate.idOf? (Table.ofEntries "ping" [("who", "x")]).name = none ∧
      ∃ result id,
        (insert (.ofEntries "ping" [("who", "x")])).result estate = (.ok id, result) ∧
        result.Sound ∧
        ∃ answer, result.Searches (fun entry => entry.2.own? "when") ⟨1⟩ answer := by
  -- The registry was built from sections, and the table to insert has no parent.
  have sound : estate.Sound := sound_of_chains (wellLinked_ofSections ofSections_estate).chains
  have fresh : estate.idOf? (Table.ofEntries "ping" [("who", "x")]).name = none := by
    decide +kernel
  obtain ⟨result, id, inserted, _, made, ends, _⟩ := insert_sound_iff sound fresh
  have kept := made _ _ rfl
  refine ⟨sound, fresh, result, id, inserted, kept, ends kept ⟨1⟩ ?_ _ _⟩
  obtain ⟨_, _, rfl⟩ := insert_eq_ok_iff.mp inserted
  rfl

/-- The second section, taken as it is into a registry without tables, inherits from itself there,
for the place of its parent is now its own.  A search for what it does not define has no end. -/
theorem heir_inherits_from_itself :
    ofSections [("default", []), ("push", [])] = .ok estate ∧ estate.get? ⟨1⟩ = some heir ∧
      empty.Sound ∧ (insert heir).result empty = (.ok ⟨0⟩, empty.added heir) ∧
      ¬(empty.added heir).Sound ∧
      ∀ answer, ¬(empty.added heir).Searches (fun entry => entry.2.own? "who") ⟨0⟩ answer := by
  -- The place of the parent is the one where the table comes to stand.
  have unknown : ¬(empty.get? ⟨0⟩).isSome := by decide
  refine ⟨ofSections_estate, rfl, sound_of_chains wellLinked_empty.chains, rfl, ?_, ?_⟩
  · exact fun kept => unknown (known_of_sound_added kept rfl)
  · exact not_searches_added rfl unknown (by decide +kernel)

end PayloadTemplate.Variables.Registry
