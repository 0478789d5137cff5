import PayloadTemplate.Proofs.Outcome
import PayloadTemplate.Proofs.Variables.Relinking

/-!
Registries stay well linked over every run: whatever tables are added and whatever parents are
changed, every way up through the parents comes to an end.
-/

namespace PayloadTemplate.Variables.Registry

open Relation

/-! ## What every step keeps -/

/-- The index is in step with the tables, and every way up comes to an end. -/
structure WellLinked (registry : Registry) : Prop where
  /-- A name and a place belong together exactly when the table there has that name. -/
  indexed : registry.Indexed
  /-- From each table there is a way up to one without a parent. -/
  chains : ∀ id, (registry.get? id).isSome → ∃ chain, registry.Chain id chain

theorem wellLinked_empty : empty.WellLinked where
  indexed := fun name id => by simp [idOf?, empty, get?]
  chains := fun id here => by simp [empty, get?] at here

namespace WellLinked

variable {registry result : Registry} {child parent : TableId}

/-- A table without a parent and with a new name may be added. -/
theorem insert {table : Table} {id : TableId} (linked : registry.WellLinked)
    (top : table.parent = none)
    (inserted : (Registry.insert table).result registry = (.ok id, result)) :
    result.WellLinked := by
  obtain ⟨fresh, _, rfl⟩ := insert_eq_ok_iff.mp inserted
  refine ⟨linked.indexed.added fresh, fun place here => ?_⟩
  by_cases last : place = ⟨registry.size⟩
  · -- The new table is the end of its own way.
    exact ⟨[(place, table)], .root (by rw [get?_added, if_pos last]) top⟩
  · -- The other tables keep their ways.
    rw [get?_added, if_neg last] at here
    obtain ⟨chain, whole⟩ := linked.chains place here
    exact ⟨chain, whole.added table⟩

/-- The way from a table of the registry is its lineage. -/
theorem chain_lineage {id : TableId} (linked : registry.WellLinked)
    (here : (registry.get? id).isSome) : registry.Chain id (registry.lineage id) := by
  obtain ⟨chain, whole⟩ := linked.chains id here
  exact whole.lineage_eq.symm ▸ whole

/-- A parent may be changed where the table is not on the way up from the new one. -/
theorem relink (linked : registry.WellLinked) (there : (registry.get? parent).isSome)
    (apart : ∀ entry ∈ registry.lineage parent, entry.1 ≠ child) :
    (registry.relink child parent).WellLinked := by
  refine ⟨linked.indexed.relink child parent, fun id here => ?_⟩
  -- The new parent keeps its way, so every table has one.
  have rest := (linked.chain_lineage there).relink_of_apart parent apart
  have old : (registry.get? id).isSome := by
    simpa [get?_isSome_iff, size, Registry.relink] using here
  obtain ⟨chain, whole⟩ := linked.chains id old
  exact whole.relink rest

/-- Changing a parent keeps a registry well linked. -/
theorem setParent (linked : registry.WellLinked) (there : (registry.get? parent).isSome)
    (changed : (Registry.setParent child parent).result registry = (.ok (), result)) :
    result.WellLinked := by
  -- The change has been made only because the way of the new parent does not pass the table.
  obtain ⟨apart, rfl⟩ := setParent_eq_ok_iff.mp changed
  exact linked.relink there apart

/-- A change of parent is refused exactly when it would make a cycle. -/
theorem setParent_fails_iff (linked : registry.WellLinked) (here : (registry.get? child).isSome)
    (there : (registry.get? parent).isSome) :
    (∃ error left, (Registry.setParent child parent).result registry = (.error error, left)) ↔
      ∃ id, TransGen (registry.Relinked child parent) id id := by
  by_cases apart : ∀ entry ∈ registry.lineage parent, entry.1 ≠ child
  · -- The change is made, and its result has a way up from every table.
    have changed := setParent_eq_ok_iff.mpr ⟨apart, rfl⟩
    have acyclic := acyclic_of_chains (linked.relink there apart).chains
    have parents : (registry.relink child parent).Inherits = registry.Relinked child parent := by
      funext first second
      exact propext (inherits_relink_iff here)
    rw [Acyclic, parents] at acyclic
    simp [changed, acyclic]
  · -- From the new parent the way leads to the table, and from there back again.
    have refused : ∃ error left,
        (Registry.setParent child parent).result registry = (.error error, left) := by
      cases outcome : (Registry.setParent child parent).result registry with
      | mk answer left =>
        cases answer with
        | error error => exact ⟨error, left, rfl⟩
        | ok answer => exact absurd (setParent_eq_ok_iff.mp outcome).1 apart
    simp only [not_forall, not_not] at apart
    obtain ⟨entry, member, same⟩ := apart
    have back := (linked.chain_lineage there).reaches parent member same
    have direct : registry.Relinked child parent child parent := by rw [Relinked, if_pos rfl]
    exact iff_of_true refused ⟨child, .head' direct back⟩

/-- Adding a table is refused exactly when a table of the registry has its name. -/
theorem insert_fails_iff (linked : registry.WellLinked) (table : Table) :
    (∃ error left, (Registry.insert table).result registry = (.error error, left)) ↔
      ∃ other ∈ registry.tables, other.name = table.name := by
  -- The index is asked, and it knows the names of the tables.
  rw [← linked.indexed.known_iff, result_insert]
  cases registry.idOf? table.name <;> simp

end WellLinked

/-! ## Registries of sections -/

section Sections

variable {registry : Registry}

/-- A name in the index stands for one of the places. -/
theorem Indexed.isSome (indexed : registry.Indexed) {name : String} {id : TableId}
    (known : registry.idOf? name = some id) : (registry.get? id).isSome := by
  obtain ⟨table, found, _⟩ := (indexed name id).mp known
  rw [found, Option.isSome_some]

/-- A section only names sections that are there as its parent. -/
theorem Indexed.intendedParent?_isSome (indexed : registry.Indexed) {id parent : TableId}
    {part : Section} (intended : registry.intendedParent? id part = some parent) :
    (registry.get? parent).isSome := by
  -- It is the section that the entries name or the default one.
  unfold intendedParent? at intended
  split at intended
  · rename_i named declared
    obtain rfl : named = parent := Option.some.inj intended
    obtain ⟨name, _, known⟩ := Option.bind_eq_some_iff.mp declared
    exact indexed.isSome known
  · exact indexed.isSome (Option.filter_eq_some_iff.mp intended).1

end Sections

/-- What holds without tables, and stays so when the table of a section is added and when a parent
is changed. -/
structure Invariant (holds : Registry → Prop) : Prop where
  /-- It holds without tables. -/
  empty : holds .empty
  /-- Adding the table of a section keeps it. -/
  insert : ∀ {registry result : Registry} {name : String} {entries : List (String × String)}
    {id : TableId}, holds registry →
      (Registry.insert (.ofEntries name entries)).result registry = (.ok id, result) → holds result
  /-- Changing a parent to a table that is there keeps it. -/
  setParent : ∀ {registry result : Registry} {child parent : TableId}, holds registry →
    (registry.get? parent).isSome →
      (Registry.setParent child parent).result registry = (.ok (), result) → holds result

/-- It is an invariant that the index is in step with the tables. -/
theorem indexed_invariant : Invariant Indexed where
  empty := wellLinked_empty.indexed
  insert := fun indexed inserted => by
    obtain ⟨fresh, _, rfl⟩ := insert_eq_ok_iff.mp inserted
    exact indexed.added fresh
  setParent := fun indexed _ changed => by
    obtain ⟨_, rfl⟩ := setParent_eq_ok_iff.mp changed
    exact indexed.relink _ _

/-- The first of some sections is added before the others. -/
theorem insertAll_cons (part : Section) (rest : List Section) :
    insertAll (part :: rest) =
      discard (insert (.ofEntries part.1 part.2)) >>= fun _ => insertAll rest := rfl

/-- A section without a parent that it is to have is left alone. -/
theorem result_link (id : TableId) (part : Section) (registry : Registry) :
    (link id part).result registry =
      match registry.intendedParent? id part with
      | some parent => (setParent id parent).result registry
      | none => (.ok (), registry) := by
  -- The intended parent is looked up in the registry as it is then.
  rw [link, Change.result_bind, Change.result_get]
  dsimp only
  cases registry.intendedParent? id part <;> rfl

/-- A registry of sections is what is left when all sections have been added and linked. -/
theorem ofSections_eq_ok_iff_populate {sections : List Section} {registry : Registry} :
    ofSections sections = .ok registry ↔
      (populate sections).result empty = (.ok (), registry) := by
  -- The registry is dropped only if one of the changes has failed.
  unfold ofSections
  cases (populate sections).result empty with
  | mk outcome left => cases outcome <;> simp [Except.map]

namespace Invariant

variable {holds : Registry → Prop} {registry result : Registry} {sections : List Section}

/-- Adding the tables of sections keeps an invariant. -/
theorem insertAll (invariant : Invariant holds) (held : holds registry)
    (inserted : (Registry.insertAll sections).result registry = (.ok (), result)) :
    holds result := by
  -- The tables are added one after the other.
  induction sections generalizing registry with
  | nil =>
    obtain ⟨_, rfl⟩ := Prod.mk.inj inserted
    exact held
  | cons part rest ih =>
    rw [insertAll_cons] at inserted
    obtain ⟨_, between, first, later⟩ := Change.result_bind_eq_ok_iff.mp inserted
    obtain ⟨id, added⟩ := Change.result_discard_eq_ok_iff.mp first
    exact ih (invariant.insert held added) later

/-- Linking sections to their parents keeps an invariant, provided that the names of the parents
stand for tables. -/
theorem linkFrom (invariant : Invariant holds) {position : Nat} (indexed : registry.Indexed)
    (held : holds registry)
    (changed : (Registry.linkFrom position sections).result registry = (.ok (), result)) :
    holds result := by
  -- Each section is given a parent or stays as it is.
  induction sections generalizing registry position with
  | nil =>
    obtain ⟨_, rfl⟩ := Prod.mk.inj changed
    exact held
  | cons part rest ih =>
    obtain ⟨_, between, first, later⟩ := Change.result_bind_eq_ok_iff.mp changed
    rw [result_link] at first
    split at first
    · rename_i parent intended
      -- A name in the index stands for a table, so the parent is there.
      have there := indexed.intendedParent?_isSome intended
      exact ih (indexed_invariant.setParent indexed there first)
        (invariant.setParent held there first) later
    · obtain ⟨_, rfl⟩ := Prod.mk.inj first
      exact ih indexed held later

/-- An invariant holds of the registry of sections. -/
theorem ofSections (invariant : Invariant holds)
    (built : Registry.ofSections sections = .ok result) : holds result := by
  obtain ⟨_, inserted, added, linked⟩ :=
    Change.result_bind_eq_ok_iff.mp (ofSections_eq_ok_iff_populate.mp built)
  -- The sections are linked once all of them are in the index.
  exact invariant.linkFrom (indexed_invariant.insertAll indexed_invariant.empty added)
    (invariant.insertAll invariant.empty added) linked

end Invariant

/-- It is an invariant that a registry is well linked: no table has a parent when it is added. -/
theorem wellLinked_invariant : Invariant WellLinked where
  empty := wellLinked_empty
  insert := fun linked inserted => linked.insert (Table.ofEntries_parent _ _) inserted
  setParent := fun linked there changed => linked.setParent there changed

/-- The registry of sections is well linked. -/
theorem wellLinked_ofSections {sections : List Section} {result : Registry}
    (built : ofSections sections = .ok result) : result.WellLinked :=
  wellLinked_invariant.ofSections built

/-! ## Runs -/

/-- What may be done with a registry. -/
inductive Operation where
  /-- Adding the table of a section. -/
  | insert (name : String) (entries : List (String × String))
  /-- Letting a table inherit from another. -/
  | setParent (child parent : TableId)

/-- What an operation does to the registry. -/
def Operation.perform : Operation → Change Unit
  | .insert name entries => discard (Registry.insert (.ofEntries name entries))
  | .setParent child parent => Registry.setParent child parent

/-- The registry that an operation leaves, whether it succeeds or not. -/
def after (registry : Registry) (operation : Operation) : Registry :=
  (operation.perform.result registry).2

/-- An operation uses places of the registry only. -/
def Operation.UsesPlacesOf (registry : Registry) : Operation → Prop
  | .insert _ _ => True
  | .setParent child parent =>
    (registry.get? child).isSome ∧ (registry.get? parent).isSome

/-- The registries that operations lead to, successful or not. -/
inductive Reachable : Registry → Prop where
  /-- A run may begin without any tables. -/
  | empty : Reachable .empty
  /-- A run may begin with the tables of sections. -/
  | ofSections {sections : List Section} {registry : Registry}
      (built : ofSections sections = .ok registry) : Reachable registry
  /-- A run may go on with an operation. -/
  | after {registry : Registry} (operation : Operation) (reachable : Reachable registry)
      (uses : operation.UsesPlacesOf registry) : Reachable (registry.after operation)

/-- An operation fails before it has changed anything. -/
theorem Operation.left_of_error {operation : Operation} {registry left : Registry}
    {error : TableError} (failed : operation.perform.result registry = (.error error, left)) :
    left = registry := by
  cases operation with
  | insert name entries =>
    rw [perform, Change.result_discard, result_insert] at failed
    -- The name was found in the index, or else the table has been added without an error.
    split at failed
    · exact (Prod.mk.inj failed).2.symm
    · cases (Prod.mk.inj failed).1
  | setParent child parent =>
    rw [perform, result_setParent] at failed
    split at failed
    · exact (Prod.mk.inj failed).2.symm
    · cases (Prod.mk.inj failed).1

/-- Every operation keeps an invariant. -/
theorem Invariant.after {holds : Registry → Prop} (invariant : Invariant holds)
    {registry : Registry} {operation : Operation} (held : holds registry)
    (uses : operation.UsesPlacesOf registry) : holds (registry.after operation) := by
  unfold Registry.after
  cases performed : operation.perform.result registry with
  | mk outcome left =>
    cases outcome with
    | error error =>
      -- What has failed has changed nothing.
      rw [Operation.left_of_error performed]
      exact held
    | ok value =>
      cases operation with
      | insert name entries =>
        obtain ⟨id, added⟩ := Change.result_discard_eq_ok_iff.mp performed
        exact invariant.insert held added
      | setParent child parent => exact invariant.setParent held uses.2 performed

/-- An invariant holds of every registry that operations lead to. -/
theorem Invariant.of_reachable {holds : Registry → Prop} (invariant : Invariant holds)
    {registry : Registry} (reachable : registry.Reachable) : holds registry := by
  -- The run is followed from its beginning, operation by operation.
  induction reachable with
  | empty => exact invariant.empty
  | ofSections built => exact invariant.ofSections built
  | after operation _ uses ih => exact invariant.after ih uses

/-- What holds of the table of every section, and of it whatever its parent, holds of every table
over every run. -/
theorem tables_invariant {holds : Table → Prop}
    (made : ∀ name entries, holds (.ofEntries name entries))
    (kept : ∀ table parent, holds table → holds { table with parent := some parent }) :
    Invariant fun registry => ∀ table ∈ registry.tables, holds table where
  empty := fun table member => by cases member
  insert := fun {registry result name entries id} held inserted => by
    obtain ⟨_, _, rfl⟩ := insert_eq_ok_iff.mp inserted
    -- The new table stands behind those that were there.
    exact List.forall_mem_append.mpr ⟨held, List.forall_mem_singleton.mpr (made name entries)⟩
  setParent := fun {registry result child parent} held _ changed => by
    obtain ⟨_, rfl⟩ := setParent_eq_ok_iff.mp changed
    intro table member
    -- Only the parent of a table is another one.
    obtain ⟨place, located⟩ := List.mem_iff_getElem?.mp member
    rw [relink, List.getElem?_modify, Option.map_eq_map, Option.map_eq_some_iff] at located
    obtain ⟨old, found, rfl⟩ := located
    have before := held old (List.mem_of_getElem? found)
    split
    · exact kept old parent before
    · exact before

/-- Every registry that operations lead to is well linked. -/
theorem Reachable.wellLinked {registry : Registry} (reachable : registry.Reachable) :
    registry.WellLinked :=
  wellLinked_invariant.of_reachable reachable

/-- Whatever operations lead to a registry, all parents in it are tables, the index joins names and
tables one to one, and from every table the way up ends at one without a parent.  So every search
along the parents ends, and the bounded walk sees all that it sees.  A change of parent fails
exactly when it would make a cycle, adding fails exactly when a table has the name already, and what
fails leaves the registry as it was, tables and index alike. -/
theorem reachable_registry_is_acyclic {registry : Registry} (reachable : registry.Reachable) :
    (∀ child parent, registry.Inherits child parent → (registry.get? parent).isSome) ∧
      (∀ name id, registry.idOf? name = some id ↔
        ∃ table, registry.get? id = some table ∧ table.name = name) ∧
      registry.Acyclic ∧
      (∀ id, (registry.get? id).isSome → registry.Chain id (registry.lineage id) ∧
        ∀ (α : Type) (pick : TableId × Table → Option α),
          registry.Searches pick id ((registry.lineage id).findSome? pick)) ∧
      (∀ child parent, (registry.get? child).isSome → (registry.get? parent).isSome →
        ((∃ error left, (setParent child parent).result registry = (.error error, left)) ↔
          ∃ id, TransGen (registry.Relinked child parent) id id)) ∧
      (∀ name entries,
        (∃ error left,
          (insert (.ofEntries name entries)).result registry = (.error error, left)) ↔
        ∃ table ∈ registry.tables, table.name = name) ∧
      ∀ (operation : Operation) (error : TableError) (left : Registry),
        operation.perform.result registry = (.error error, left) → left = registry := by
  have linked := reachable.wellLinked
  refine ⟨fun child parent inherits => ?_, linked.indexed, acyclic_of_chains linked.chains,
    fun id here => ?_, fun child parent here there => linked.setParent_fails_iff here there,
    fun name entries => ?_, fun operation error left failed => Operation.left_of_error failed⟩
  · -- The parent of a table begins the rest of its way.
    obtain ⟨table, found, _⟩ := id inherits
    obtain ⟨chain, whole⟩ := linked.chains child (by simp [found])
    obtain ⟨_, above, _, rest⟩ := whole.above inherits
    cases rest with
    | root found _ => simp [found]
    | link found _ _ => simp [found]
  · -- The bounded walk is long enough for the whole way.
    have whole := linked.chain_lineage here
    exact ⟨whole, fun _ pick => whole.searches pick⟩
  · simpa using linked.insert_fails_iff (.ofEntries name entries)

/-- Three sections that inherit from each other, the last from the second and that from the
first. -/
def family : Registry :=
  ofTables [
    { name := "default", definitions := [("who", "world")] },
    { name := "base", parent := some ⟨0⟩ },
    { name := "push", parent := some ⟨1⟩ }]

/-- The first section cannot inherit from the last, and no second section of its name is added. -/
theorem reachable_registry_is_acyclic_family :
    (∃ sections, ofSections sections = .ok family) ∧
      family.names = [("default", ⟨0⟩), ("base", ⟨1⟩), ("push", ⟨2⟩)] ∧
      (∃ error, (setParent ⟨0⟩ ⟨2⟩).result family = (.error error, family)) ∧
      (∃ id, TransGen (family.Relinked ⟨0⟩ ⟨2⟩) id id) ∧
      (¬∃ id, TransGen (family.Relinked ⟨2⟩ ⟨0⟩) id id) ∧
      (∃ error, (insert (.ofEntries "base" [])).result family = (.error error, family)) ∧
      family.Searches (fun entry => entry.2.own? "WHO") ⟨2⟩ (some "world") := by
  have built : ofSections [("default", [("Who", "world")]), ("base", []),
      ("push", [("Parent", "base")])] = .ok family := by decide +kernel
  obtain ⟨_, _, _, searches, changes, additions, unchanged⟩ :=
    reachable_registry_is_acyclic (.ofSections built)
  obtain ⟨error, left, refused⟩ : ∃ error left,
      (setParent ⟨0⟩ ⟨2⟩).result family = (.error error, left) := ⟨_, _, rfl⟩
  have allowed : ¬∃ error left, (setParent ⟨2⟩ ⟨0⟩).result family = (.error error, left) := by
    rintro ⟨error, left, failed⟩
    cases failed
  -- What the refused change leaves is the registry itself.
  have kept := unchanged (.setParent ⟨0⟩ ⟨2⟩) error left refused
  refine ⟨⟨_, built⟩, rfl, ⟨error, kept ▸ refused⟩, (changes _ _ rfl rfl).mp ⟨_, _, refused⟩,
    fun cycle => allowed ((changes _ _ rfl rfl).mpr cycle), ?_, ?_⟩
  · -- The second section has the name that is asked for.
    obtain ⟨error, left, failed⟩ := (additions "base" []).mpr
      ⟨{ name := "base", parent := some ⟨0⟩ }, by decide, rfl⟩
    have dropped : (Operation.insert "base" []).perform.result family = (.error error, left) := by
      rw [Operation.perform, Change.result_discard, failed]
      rfl
    exact ⟨error, unchanged _ error left dropped ▸ failed⟩
  · have answer : (family.lineage ⟨2⟩).findSome? (fun entry => entry.2.own? "WHO") =
        some "world" := by decide +kernel
    exact answer ▸ (searches ⟨2⟩ rfl).2 String fun entry => entry.2.own? "WHO"

end PayloadTemplate.Variables.Registry
