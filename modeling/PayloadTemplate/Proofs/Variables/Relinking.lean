import PayloadTemplate.Proofs.Entries
import PayloadTemplate.Proofs.Variables.Lineage

/-!
What adding a table and changing a parent do to a registry: to its index of names and to the ways up
through the parents.
-/

namespace PayloadTemplate.Variables

open Relation

/-- What no entry of a section changes is that of an empty table of the same name. -/
theorem Table.ofEntries_kept {α : Type} {read : Table → α}
    (kept : ∀ table entry, read (Table.add table entry) = read table) (name : String)
    (entries : List (String × String)) : read (Table.ofEntries name entries) = read { name } := by
  -- The entries are added to the empty table one after the other.
  have general : ∀ table, read (entries.foldl Table.add table) = read table := by
    induction entries with
    | nil => exact fun _ => rfl
    | cons entry rest ih =>
      intro table
      rw [List.foldl_cons, ih, kept]
  exact general { name }

/-- The name of a section is that of its table. -/
@[simp] theorem Table.ofEntries_name (name : String) (entries : List (String × String)) :
    (Table.ofEntries name entries).name = name := by
  -- No entry changes the name.
  refine Table.ofEntries_kept (fun table entry => ?_) name entries
  rw [Table.add]
  repeat' split
  all_goals rfl

/-- No parent is read from the entries of a section. -/
@[simp] theorem Table.ofEntries_parent (name : String) (entries : List (String × String)) :
    (Table.ofEntries name entries).parent = none := by
  -- Entries are added to a table without a parent, and none of them gives it one.
  refine Table.ofEntries_kept (fun table entry => ?_) name entries
  rw [Table.add]
  repeat' split
  all_goals rfl

namespace Registry

/-! ## Changes one after the other -/

namespace Change

variable {α β : Type} {registry : Registry}

@[simp] theorem result_get (registry : Registry) :
    (get : Change Registry).result registry = (.ok registry, registry) := rfl

/-- A change that follows another starts from the registry which that one has left.  After a failure
nothing follows, and the registry stays as the failure has left it. -/
theorem result_bind (first : Change α) (next : α → Change β) (registry : Registry) :
    (first >>= next).result registry =
      match first.result registry with
      | (.ok value, left) => (next value).result left
      | (.error error, left) => (.error error, left) := by
  -- Both sides look at the outcome of the first change.
  simp only [result, ExceptT.run_bind, StateT.run_bind, Id.run_bind]
  cases (first.run.run registry).run with
  | mk outcome left => cases outcome <;> rfl

/-- Two changes succeed one after the other exactly when both do. -/
theorem result_bind_eq_ok_iff {first : Change α} {next : α → Change β} {answer : β}
    {after : Registry} :
    (first >>= next).result registry = (.ok answer, after) ↔
      ∃ value between, first.result registry = (.ok value, between) ∧
        (next value).result between = (.ok answer, after) := by
  rw [result_bind]
  cases first.result registry with
  | mk outcome left =>
    -- A failure of the first change is the failure of both.
    cases outcome with
    | error error => simp
    | ok value => simp

/-- A change whose answer is not used leaves what it leaves. -/
theorem result_discard (change : Change α) (registry : Registry) :
    (discard change : Change Unit).result registry =
      ((change.result registry).1.map fun _ => (), (change.result registry).2) := by
  -- The answer is replaced in a success only.
  show (change >>= fun _ => pure () : Change Unit).result registry = _
  rw [result_bind]
  cases change.result registry with
  | mk outcome left => cases outcome <;> rfl

/-- A change whose answer is not used succeeds exactly when it does. -/
theorem result_discard_eq_ok_iff {change : Change α} {answer : Unit} {after : Registry} :
    (discard change : Change Unit).result registry = (.ok answer, after) ↔
      ∃ value, change.result registry = (.ok value, after) := by
  -- The registry that is left does not depend on the answer.
  rw [result_discard]
  cases change.result registry with
  | mk outcome left => cases outcome <;> simp [Except.map]

end Change

variable {registry : Registry} {table : Table} {child parent id : TableId}

/-- The places of a registry are those below its size. -/
theorem get?_isSome_iff : (registry.get? id).isSome = true ↔ id.position < registry.size := by
  simp [get?, size]

/-! ## Adding a table -/

/-- The registry with one more table, which has the next place in the index as well. -/
def added (registry : Registry) (table : Table) : Registry where
  tables := registry.tables ++ [table]
  names := Entries.put table.name ⟨registry.size⟩ registry.names

/-- A table is added unless its name is in the index, and then nothing has been changed. -/
theorem result_insert (registry : Registry) (table : Table) :
    (insert table).result registry =
      if (registry.idOf? table.name).isSome then
        (.error (.duplicateSection table.name), registry)
      else (.ok ⟨registry.size⟩, registry.added table) := by
  -- The index is asked before anything is written.
  rw [insert, Change.result_bind, Change.result_get]
  dsimp only
  split <;> rfl

/-- Adding succeeds exactly when the name is not in the index yet. -/
theorem insert_eq_ok_iff {result : Registry} :
    (insert table).result registry = (.ok id, result) ↔
      registry.idOf? table.name = none ∧ id = ⟨registry.size⟩ ∧ result = registry.added table := by
  -- The name is looked up before anything is changed.
  rw [result_insert]
  cases known : registry.idOf? table.name with
  | none =>
    simp only [Option.isSome_none, Bool.false_eq_true, if_false, Prod.mk.injEq, Except.ok.injEq,
      true_and, eq_comm]
  | some other => simp

/-- The added table stands behind all others, which keep their places. -/
theorem get?_added (registry : Registry) (table : Table) (id : TableId) :
    (registry.added table).get? id =
      if id = ⟨registry.size⟩ then some table else registry.get? id := by
  obtain ⟨place⟩ := id
  simp only [added, get?, size, TableId.mk.injEq]
  split
  · rename_i last
    rw [last, List.getElem?_concat_length]
  · rename_i other
    -- Beyond the added table there is nothing, neither before nor after.
    rcases Nat.lt_or_gt_of_ne other with below | beyond
    · exact List.getElem?_append_left below
    · rw [List.getElem?_eq_none (Nat.le_of_lt beyond), List.getElem?_eq_none]
      simpa using Nat.succ_le_of_lt beyond

/-- There is no table yet at the place of the next one. -/
theorem get?_size (registry : Registry) : registry.get? ⟨registry.size⟩ = none :=
  List.getElem?_eq_none (Nat.le_refl _)

/-- A table that was there is found where it was. -/
theorem get?_added_of_some {found : Table} (here : registry.get? id = some found) :
    (registry.added table).get? id = some found := by
  -- The new table stands behind all that were found.
  rw [get?_added, if_neg, here]
  rintro rfl
  rw [get?_size] at here
  cases here

/-- The added table has its name in the index, and all others keep theirs. -/
theorem idOf?_added (registry : Registry) (table : Table) (name : String) :
    (registry.added table).idOf? name =
      if table.name = name then some ⟨registry.size⟩ else registry.idOf? name :=
  Entries.lookup_put _

/-- Every table is in the index under its name, and the index holds nothing else. -/
def Indexed (registry : Registry) : Prop :=
  ∀ name id, registry.idOf? name = some id ↔
    ∃ table, registry.get? id = some table ∧ table.name = name

/-- A name is in the index exactly when a table has it. -/
theorem Indexed.known_iff (indexed : registry.Indexed) {name : String} :
    (∃ id, registry.idOf? name = some id) ↔ ∃ table ∈ registry.tables, table.name = name := by
  -- The index leads to a table of the name, and from any such table back to the name.
  simp only [indexed name, List.mem_iff_getElem?, get?]
  constructor
  · rintro ⟨id, table, found, named⟩
    exact ⟨table, ⟨id.position, found⟩, named⟩
  · rintro ⟨table, ⟨place, found⟩, named⟩
    exact ⟨⟨place⟩, table, found, named⟩

/-- A table of a new name is added to the index as well as to the tables. -/
theorem Indexed.added (indexed : registry.Indexed) (fresh : registry.idOf? table.name = none) :
    (registry.added table).Indexed := by
  intro name id
  rw [idOf?_added, get?_added]
  by_cases last : id = ⟨registry.size⟩
  · -- The last place is in the index under the new name only.
    subst last
    have beyond : registry.idOf? name ≠ some ⟨registry.size⟩ := by
      rw [Ne, indexed, get?_size]
      simp
    by_cases named : table.name = name <;> simp [named, beyond]
  · -- The other places are in it under the names that they had, none of which is the new one.
    rw [if_neg last, ← indexed]
    split
    · rename_i named
      rw [← named, fresh]
      simp [Ne.symm last]
    · rfl

/-- A table that is added leaves the ways of the others as they are. -/
theorem Chain.added {chain : List (TableId × Table)} (whole : registry.Chain id chain)
    (table : Table) : (registry.added table).Chain id chain := by
  -- Every table on the way is found where it was.
  induction whole with
  | root found top => exact .root (get?_added_of_some found) top
  | link found linked _ ih => exact .link (get?_added_of_some found) linked ih

/-! ## Changing a parent -/

/-- The registry in which one table has another parent, whatever cycle that makes. -/
def relink (registry : Registry) (child parent : TableId) : Registry :=
  { registry with
    tables := registry.tables.modify child.position fun table =>
      { table with parent := some parent } }

/-- The parents after a change: the new one for one table, and what they were for the others. -/
def Relinked (registry : Registry) (child parent first second : TableId) : Prop :=
  if first = child then second = parent else registry.Inherits first second

/-- A parent is changed unless the table is on the way up from its new parent, and then nothing has
been changed. -/
theorem result_setParent (registry : Registry) (child parent : TableId) :
    (setParent child parent).result registry =
      if (registry.lineage parent).any (·.1 == child) then
        (.error (.inheritanceCycle (registry.nameOf child) (registry.nameOf parent)), registry)
      else (.ok (), registry.relink child parent) := by
  -- The way up is searched before anything is written.
  rw [setParent, Change.result_bind, Change.result_get]
  dsimp only
  split <;> rfl

/-- A parent is changed exactly when the table is not on the way up from its new parent. -/
theorem setParent_eq_ok_iff {result : Registry} :
    (setParent child parent).result registry = (.ok (), result) ↔
      (∀ entry ∈ registry.lineage parent, entry.1 ≠ child) ∧
        result = registry.relink child parent := by
  have searched : (registry.lineage parent).any (·.1 == child) = true ↔
      ¬∀ entry ∈ registry.lineage parent, entry.1 ≠ child := by simp
  rw [result_setParent]
  split
  · -- The table has been found, and an error is no success.
    rename_i below
    exact iff_of_false (by simp) fun changed => searched.mp below changed.1
  · rename_i apart
    rw [searched, not_not] at apart
    rw [Prod.mk.injEq, and_iff_right rfl, and_iff_right apart, eq_comm]

/-- Only the table whose parent changes is another one. -/
theorem get?_relink_of_ne (parent : TableId) (apart : id ≠ child) :
    (registry.relink child parent).get? id = registry.get? id := by
  -- Different tables stand at different places.
  have places : child.position ≠ id.position := by
    intro same
    cases id
    cases child
    exact apart (by simpa using same.symm)
  simp [relink, get?, places]

/-- The table whose parent changes keeps all else. -/
theorem get?_relink_child :
    (registry.relink child parent).get? child =
      (registry.get? child).map fun table => { table with parent := some parent } := by
  simp [relink, get?]

/-- No table gets another name. -/
theorem map_name_relink (registry : Registry) (child parent id : TableId) :
    ((registry.relink child parent).get? id).map Table.name =
      (registry.get? id).map Table.name := by
  -- The table that is relinked keeps its name.
  by_cases same : id = child
  · rw [same, get?_relink_child, Option.map_map]
    rfl
  · rw [get?_relink_of_ne parent same]

/-- The index is not touched, nor need it be. -/
theorem Indexed.relink (indexed : registry.Indexed) (child parent : TableId) :
    (registry.relink child parent).Indexed := by
  -- The index is about names, and these stay where they are.
  intro name id
  rw [← Option.map_eq_some_iff, map_name_relink, Option.map_eq_some_iff]
  exact indexed name id

/-- The changed registry has the parents that it should have. -/
theorem inherits_relink_iff (here : (registry.get? child).isSome) {first second : TableId} :
    (registry.relink child parent).Inherits first second ↔
      registry.Relinked child parent first second := by
  unfold Relinked
  split
  · -- The new parent is the only one of its table.
    rename_i same
    obtain ⟨table, found⟩ := Option.isSome_iff_exists.mp here
    simp [same, Inherits, get?_relink_child, found, eq_comm]
  · -- The other tables are those of the registry.
    rename_i apart
    simp only [Inherits, get?_relink_of_ne parent apart]

/-- A way that does not pass the changed table stays as it is. -/
theorem Chain.relink_of_apart {chain : List (TableId × Table)}
    (whole : registry.Chain id chain) (parent : TableId)
    (apart : ∀ entry ∈ chain, entry.1 ≠ child) : (registry.relink child parent).Chain id chain := by
  -- No table of the chain is the one that changes.
  induction whole with
  | root found top =>
    exact .root ((get?_relink_of_ne parent (apart _ List.mem_cons_self)).trans found) top
  | link found linked _ ih =>
    obtain ⟨first, above⟩ := List.forall_mem_cons.mp apart
    exact .link ((get?_relink_of_ne parent first).trans found) linked (ih above)

/-- When the new parent keeps a way, so do all tables: those that passed the changed table go on
with the new parent there. -/
theorem Chain.relink {chain above : List (TableId × Table)} (whole : registry.Chain id chain)
    (rest : (registry.relink child parent).Chain parent above) :
    ∃ changed, (registry.relink child parent).Chain id changed := by
  -- Up to the changed table the way is the old one; there it goes on with the new parent's.
  induction whole with
  | @root id table found top =>
    by_cases same : id = child
    · subst same
      exact ⟨_, .link (get?_relink_child.trans (by rw [found]; rfl)) rfl rest⟩
    · exact ⟨_, .root ((get?_relink_of_ne parent same).trans found) top⟩
  | @link id next table others found linked _ ih =>
    by_cases same : id = child
    · subst same
      exact ⟨_, .link (get?_relink_child.trans (by rw [found]; rfl)) rfl rest⟩
    · obtain ⟨changed, later⟩ := ih
      exact ⟨_, .link ((get?_relink_of_ne parent same).trans found) linked later⟩

/-- A table on a way is reached along it also after its own parent has changed. -/
theorem Chain.reaches {chain : List (TableId × Table)} {entry : TableId × Table}
    (whole : registry.Chain id chain) (parent : TableId) (member : entry ∈ chain)
    (same : entry.1 = child) :
    ReflTransGen (registry.Relinked child parent) id child := by
  -- Up to that table no parent is another one.
  induction whole with
  | root found top =>
    obtain rfl := List.mem_singleton.mp member
    exact same ▸ .refl
  | @link id next table above found linked _ ih =>
    by_cases here : id = child
    · exact here ▸ .refl
    · rcases List.mem_cons.mp member with rfl | higher
      · exact absurd same here
      · refine .head ?_ (ih higher)
        -- This table is another one, so it still has its parent.
        rw [Relinked, if_neg here]
        exact ⟨table, found, linked⟩

/-! ## The index of given tables -/

/-- An index in which each of some names has its own place. -/
def placesOf (names : List String) : List (String × TableId) :=
  names.zipIdx.map fun entry => (entry.1, ⟨entry.2⟩)

/-- The registry that consists of some tables and their index. -/
def ofTables (tables : List Table) : Registry :=
  ⟨tables, placesOf (tables.map Table.name)⟩

/-- A place in the index is that of the name there. -/
theorem mem_placesOf_iff {names : List String} {name : String} :
    (name, id) ∈ placesOf names ↔ names[id.position]? = some name := by
  obtain ⟨place⟩ := id
  simp [placesOf, List.mem_zipIdx_iff_getElem?]

@[simp] theorem keys_placesOf (names : List String) : (placesOf names).map Prod.fst = names := by
  rw [placesOf, List.map_map]
  exact List.zipIdx_map_fst 0 names

/-- Tables of different names are found by their names. -/
theorem indexed_ofTables {tables : List Table} (distinct : (tables.map Table.name).Nodup) :
    (ofTables tables).Indexed := by
  intro name id
  -- Each name is bound once, to its place among the names.
  rw [idOf?, ofTables, Entries.lookup_eq_some_iff (by rwa [keys_placesOf]), mem_placesOf_iff,
    List.getElem?_map, Option.map_eq_some_iff]
  rfl

/-- The index knows the names of the tables and no others. -/
theorem idOf?_ofTables_eq_none_iff {tables : List Table} {name : String} :
    (ofTables tables).idOf? name = none ↔ name ∉ tables.map Table.name := by
  rw [idOf?, ofTables, Entries.lookup_eq_none_iff, keys_placesOf]

/-- A table of a new name is added behind the others and so is its place. -/
theorem added_ofTables {tables : List Table} (fresh : table.name ∉ tables.map Table.name) :
    (ofTables tables).added table = ofTables (tables ++ [table]) := by
  have unbound : table.name ∉ (placesOf (tables.map Table.name)).map Prod.fst := by
    rwa [keys_placesOf]
  -- The new name comes last in the index, since it was not there before.
  have longer : placesOf ((tables ++ [table]).map Table.name) =
      placesOf (tables.map Table.name) ++ [(table.name, ⟨tables.length⟩)] := by
    simp [placesOf, List.zipIdx_append]
  rw [added, ofTables, ofTables, longer, Entries.put_of_not_mem unbound]
  rfl

/-- Changing a parent leaves the index that of the tables. -/
theorem relink_ofTables (tables : List Table) (child parent : TableId) :
    (ofTables tables).relink child parent =
      ofTables (tables.modify child.position fun table =>
        { table with parent := some parent }) := by
  -- The names are the same, place by place.
  have names : (tables.modify child.position fun table =>
      { table with parent := some parent }).map Table.name = tables.map Table.name := by
    refine List.ext_getElem? fun place => ?_
    simpa [get?, relink, ofTables] using map_name_relink (ofTables tables) child parent ⟨place⟩
  rw [relink, ofTables, ofTables, names]

end Registry

end PayloadTemplate.Variables
