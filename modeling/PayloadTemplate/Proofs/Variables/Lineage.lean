import Mathlib.Data.List.Nodup
import Mathlib.Data.List.Perm.Subperm
import Mathlib.Logic.Relation
import PayloadTemplate.Variables.Registry

/-! The way from a table up through its parents, and when the bounded walk sees all of it. -/

namespace PayloadTemplate.Variables.Registry

open Relation

/-! ## Parents and chains -/

/-- A table names another one as its parent. -/
def Inherits (registry : Registry) (child parent : TableId) : Prop :=
  ∃ table, registry.get? child = some table ∧ table.parent = some parent

/-- No table inherits from itself, not even by way of others. -/
def Acyclic (registry : Registry) : Prop :=
  ∀ id, ¬TransGen registry.Inherits id id

/-- The tables on the way up from a table, itself included, to one that has no parent. -/
inductive Chain (registry : Registry) : TableId → List (TableId × Table) → Prop where
  /-- A table without a parent is the end of its way. -/
  | root {id : TableId} {table : Table} (found : registry.get? id = some table)
      (top : table.parent = none) : Chain registry id [(id, table)]
  /-- The way of a table goes on with the way of its parent. -/
  | link {id parent : TableId} {table : Table} {above : List (TableId × Table)}
      (found : registry.get? id = some table) (linked : table.parent = some parent)
      (rest : Chain registry parent above) : Chain registry id ((id, table) :: above)

section Chains

variable {registry : Registry} {id : TableId} {chain : List (TableId × Table)}

/-- There is only one way up. -/
theorem Chain.unique {other : List (TableId × Table)} (whole : registry.Chain id chain)
    (again : registry.Chain id other) : other = chain := by
  -- Each table has at most one parent.
  induction whole generalizing other with
  | root found top =>
    cases again with
    | root foundAgain _ => simp_all
    | link foundAgain linked _ => simp_all
  | link found linked _ ih =>
    cases again with
    | root foundAgain top => simp_all
    | link foundAgain linkedAgain rest =>
      obtain rfl : _ = _ := Option.some.inj (found.symm.trans foundAgain)
      -- Both chains go on with the same parent.
      obtain rfl : _ = _ := Option.some.inj (linked.symm.trans linkedAgain)
      rw [ih rest]

/-- The way of a table starts with the table, and the way of its parent is the rest of it. -/
theorem Chain.above {parent : TableId} (whole : registry.Chain id chain)
    (inherits : registry.Inherits id parent) :
    ∃ table above, chain = (id, table) :: above ∧ registry.Chain parent above := by
  -- The chain of the parent is all but the first table of this one.
  obtain ⟨named, foundAgain, linkedAgain⟩ := inherits
  cases whole with
  | root found top => simp_all
  | @link _ next table above found linked rest =>
    obtain rfl : _ = _ := Option.some.inj (found.symm.trans foundAgain)
    obtain rfl : _ = _ := Option.some.inj (linked.symm.trans linkedAgain)
    exact ⟨table, above, rfl, rest⟩

/-- Whatever a table inherits from has a shorter way. -/
theorem Chain.shorter {ancestor : TableId} (whole : registry.Chain id chain)
    (inherits : TransGen registry.Inherits id ancestor) :
    ∃ above, registry.Chain ancestor above ∧ above.length < chain.length := by
  -- Each link takes one table off the way.
  induction inherits with
  | single direct =>
    obtain ⟨table, above, rfl, rest⟩ := whole.above direct
    exact ⟨above, rest, by simp⟩
  | tail _ direct ih =>
    obtain ⟨chain, between, shorter⟩ := ih
    obtain ⟨table, above, rfl, rest⟩ := between.above direct
    simp only [List.length_cons] at shorter
    exact ⟨above, rest, by omega⟩

/-- The tables on a way have ways of their own, which are no longer. -/
theorem Chain.of_mem {entry : TableId × Table} (whole : registry.Chain id chain)
    (member : entry ∈ chain) :
    registry.get? entry.1 = some entry.2 ∧
      ∃ above, registry.Chain entry.1 above ∧ above.length ≤ chain.length := by
  -- Behind each of its tables the chain is the chain of that table.
  induction whole with
  | root found top =>
    obtain rfl := List.mem_singleton.mp member
    exact ⟨found, _, .root found top, Nat.le_refl _⟩
  | link found linked rest ih =>
    rcases List.mem_cons.mp member with rfl | higher
    · exact ⟨found, _, .link found linked rest, Nat.le_refl _⟩
    · obtain ⟨foundHigher, above, chained, le⟩ := ih higher
      exact ⟨foundHigher, above, chained, by rw [List.length_cons]; omega⟩

/-- A way passes no table twice. -/
theorem Chain.nodup (whole : registry.Chain id chain) : (chain.map Prod.fst).Nodup := by
  induction whole with
  | root => simp
  | @link id parent table above found linked rest ih =>
    rw [List.map_cons, List.nodup_cons]
    refine ⟨fun again => ?_, ih⟩
    -- The way of a table that came up again would be longer than itself.
    obtain ⟨entry, member, same⟩ := List.mem_map.mp again
    obtain ⟨_, shorter, chained, le⟩ := rest.of_mem member
    rw [same] at chained
    have equal := (Chain.link found linked rest).unique chained
    rw [equal, List.length_cons] at le
    omega

/-- A way is no longer than the number of tables. -/
theorem Chain.length_le (whole : registry.Chain id chain) : chain.length ≤ registry.size := by
  -- The tables on it stand at different places below that number.
  let places := chain.map fun entry => entry.1.position
  have distinct : places.Nodup := by
    have nodup := whole.nodup
    have injective : Function.Injective TableId.position := fun first second same => by
      cases first
      cases second
      simpa using same
    simpa [places, Function.comp_def] using nodup.map injective
  -- Each of them has been found, so its place is below the size.
  have within : places ⊆ List.range registry.size := by
    intro place member
    obtain ⟨entry, onWay, rfl⟩ := List.mem_map.mp member
    obtain ⟨found, _⟩ := whole.of_mem onWay
    exact List.mem_range.mpr (List.getElem?_eq_some_iff.mp found).1
  simpa [places] using (distinct.subperm within).length_le

/-- With enough steps, the walk up from a table sees its whole way. -/
theorem Chain.ancestors_eq (whole : registry.Chain id chain) {steps : Nat}
    (enough : chain.length ≤ steps) : registry.ancestors steps (some id) = chain := by
  -- Each step takes the next table of the way.
  induction whole generalizing steps with
  | root found top =>
    obtain ⟨steps, rfl⟩ := Nat.exists_eq_add_one.mpr (Nat.lt_of_lt_of_le Nat.one_pos enough)
    rw [ancestors, found]
    cases steps <;> simp [top, ancestors]
  | link found linked _ ih =>
    rw [List.length_cons] at enough
    obtain ⟨steps, rfl⟩ := Nat.exists_eq_add_one.mpr (Nat.lt_of_lt_of_le (Nat.succ_pos _) enough)
    rw [ancestors, found]
    simp only [linked]
    rw [ih (by omega)]

/-- The lineage of a table is its whole way. -/
theorem Chain.lineage_eq (whole : registry.Chain id chain) : registry.lineage id = chain :=
  whole.ancestors_eq whole.length_le

/-- Where every table has a way, none inherits from itself. -/
theorem acyclic_of_chains
    (chains : ∀ id, (registry.get? id).isSome → ∃ chain, registry.Chain id chain) :
    registry.Acyclic := by
  intro id cycle
  -- The first table of the cycle is one of the registry.
  obtain ⟨_, ⟨table, found, _⟩, _⟩ := TransGen.head'_iff.mp cycle
  obtain ⟨chain, whole⟩ := chains id (by simp [found])
  obtain ⟨shorter, again, less⟩ := whole.shorter cycle
  rw [whole.unique again] at less
  exact Nat.lt_irrefl _ less

end Chains

/-! ## What no table has -/

/-- A table inherits only what some table of its registry has. -/
theorem mem_tables_of_mem_ancestors {registry : Registry} {steps : Nat} {id : Option TableId}
    {entry : TableId × Table} (member : entry ∈ registry.ancestors steps id) :
    entry.2 ∈ registry.tables := by
  -- Each step up finds its table in the registry.
  induction steps generalizing id with
  | zero => cases member
  | succ steps ih =>
    cases id with
    | none => cases member
    | some id =>
      rw [ancestors] at member
      split at member
      · rename_i table found
        -- It is the table that was found first, or one further up.
        obtain rfl | higher := List.mem_cons.mp member
        · exact List.mem_of_getElem? found
        · exact ih higher
      · cases member

/-- What no table of a registry has is not inherited either. -/
theorem inherited?_eq_none {α : Type} {registry : Registry} {pick : Table → Option α}
    (nowhere : ∀ table ∈ registry.tables, pick table = none) (id : TableId) :
    registry.inherited? id pick = none :=
  List.findSome?_eq_none_iff.mpr fun _ member => nowhere _ (mem_tables_of_mem_ancestors member)

/-! ## Searching along a chain -/

/-- The search that looks at a table, goes on with its parent as long as there is no answer, and
ends without one at a table that has no parent.  Nothing bounds the number of its steps. -/
inductive Searches (registry : Registry) {α : Type} (pick : TableId × Table → Option α) :
    TableId → Option α → Prop where
  /-- The table has an answer. -/
  | found {id : TableId} {table : Table} {answer : α} (here : registry.get? id = some table)
      (picked : pick (id, table) = some answer) : Searches registry pick id (some answer)
  /-- Neither the table nor any other has an answer. -/
  | top {id : TableId} {table : Table} (here : registry.get? id = some table)
      (silent : pick (id, table) = none) (last : table.parent = none) :
      Searches registry pick id none
  /-- The answer is that of the parent. -/
  | up {id parent : TableId} {table : Table} {answer : Option α}
      (here : registry.get? id = some table) (silent : pick (id, table) = none)
      (linked : table.parent = some parent) (higher : Searches registry pick parent answer) :
      Searches registry pick id answer

/-- Along a chain a search ends, with the first answer on the way. -/
theorem Chain.searches {registry : Registry} {α : Type} {id : TableId}
    {chain : List (TableId × Table)} (whole : registry.Chain id chain)
    (pick : TableId × Table → Option α) : registry.Searches pick id (chain.findSome? pick) := by
  -- A table with an answer ends the search, and one without leaves it to the rest of the way.
  induction whole with
  | @root id table found top =>
    cases picked : pick (id, table) with
    | none => simpa [picked] using Searches.top found picked top
    | some answer => simpa [picked] using Searches.found found picked
  | @link id parent table above found linked _ ih =>
    cases picked : pick (id, table) with
    | none => simpa [picked] using Searches.up found picked linked ih
    | some answer => simpa [picked] using Searches.found found picked

end PayloadTemplate.Variables.Registry
