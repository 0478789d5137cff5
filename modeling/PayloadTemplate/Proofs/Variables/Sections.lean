import PayloadTemplate.Proofs.Variables.Runs

/-!
Registries of sections.  The parents that the sections are meant to have decide whether the sections
make up a registry and what is inherited in it; the order of the sections decides nothing.
-/

namespace PayloadTemplate.Variables.Registry

open Relation

/-! ## The parents that sections are meant to have -/

/-- The section that a section is meant to inherit from: the one that it names, if there is such a
section, or else the default section, if there is one and it is another. -/
def intendedName? (sections : List Section) (part : Section) : Option String :=
  match (declaredParent? part.2).filter (· ∈ sections.map Prod.fst) with
  | some name => some name
  | none =>
    if defaultSection ∈ sections.map Prod.fst ∧ defaultSection ≠ part.1 then some defaultSection
    else none

/-- A section is meant to inherit from another one, both given by their names. -/
def Intended (sections : List Section) (child parent : String) : Prop :=
  ∃ part ∈ sections, part.1 = child ∧ intendedName? sections part = some parent

/-- Sections are only meant to inherit from sections. -/
theorem intendedName?_mem {sections : List Section} {part : Section} {name : String}
    (intended : intendedName? sections part = some name) : name ∈ sections.map Prod.fst := by
  -- The name has been looked for, and so has the default section.
  unfold intendedName? at intended
  split at intended
  · rename_i named declared
    obtain rfl : named = name := Option.some.inj intended
    simpa using (Option.filter_eq_some_iff.mp declared).2
  · split at intended
    · rename_i present
      obtain rfl : defaultSection = name := Option.some.inj intended
      exact present.1
    · cases intended

/-- Only the names of the sections matter for the parent that one of them is meant to have. -/
theorem intendedName?_congr {sections other : List Section}
    (same : ∀ name, name ∈ other.map Prod.fst ↔ name ∈ sections.map Prod.fst) (part : Section) :
    intendedName? other part = intendedName? sections part := by
  -- Both questions that are asked are whether a name is among them.
  unfold intendedName?
  simp only [same]

/-! ## Names and places -/

/-- Where two registries have the same index, a name has the same place in both. -/
theorem idOf?_congr {registry other : Registry} (same : other.names = registry.names) :
    other.idOf? = registry.idOf? := by
  -- Nothing but the index is asked.
  funext name
  rw [idOf?, idOf?, same]

/-- Where two registries have the same index, a section finds the same parent in both. -/
theorem intendedParent?_congr {registry other : Registry} (same : other.names = registry.names)
    (id : TableId) (part : Section) :
    other.intendedParent? id part = registry.intendedParent? id part := by
  -- The parent is looked for by its name.
  rw [intendedParent?, intendedParent?, idOf?_congr same]

/-- The tables of sections, none of which has a parent yet. -/
def unlinked (sections : List Section) : Registry :=
  ofTables (sections.map fun part => Table.ofEntries part.1 part.2)

/-- The table of a section with the parent that it is meant to have. -/
def intendedTable (sections : List Section) (part : Section) : Table :=
  { Table.ofEntries part.1 part.2 with
    parent := intendedName? sections part >>= (unlinked sections).idOf? }

/-- The tables of sections with the parents that they are meant to have. -/
def intendedRegistry (sections : List Section) : Registry :=
  ofTables (sections.map (intendedTable sections))

section Places

variable {sections : List Section} {id : TableId} {part : Section}

@[simp] theorem intendedTable_name (sections : List Section) (part : Section) :
    (intendedTable sections part).name = part.1 :=
  Table.ofEntries_name part.1 part.2

/-- The tables of linked sections have the names of the sections. -/
theorem map_name_intendedTable (sections parts : List Section) :
    (parts.map (intendedTable sections)).map Table.name = parts.map Prod.fst := by
  simp

/-- Taking its parent from the table of a section changes nothing: it has none. -/
theorem ofEntries_without_parent (part : Section) :
    { Table.ofEntries part.1 part.2 with parent := none } = Table.ofEntries part.1 part.2 := by
  -- The parent that is put in is the one that is there.
  rw [← Table.ofEntries_parent part.1 part.2]

/-- The tables of sections that have no parents yet have the names of the sections. -/
@[simp] theorem unlinked_names (sections : List Section) :
    (unlinked sections).tables.map Table.name = sections.map Prod.fst := by
  simp [unlinked, ofTables]

@[simp] theorem intendedRegistry_names (sections : List Section) :
    (intendedRegistry sections).tables.map Table.name = sections.map Prod.fst :=
  map_name_intendedTable sections sections

/-- The index of sections has their names in order. -/
theorem names_unlinked (sections : List Section) :
    (unlinked sections).names = placesOf (sections.map Prod.fst) :=
  congrArg placesOf (unlinked_names sections)

/-- Sections of different names make up a well linked registry as long as none has a parent. -/
theorem wellLinked_unlinked (distinct : (sections.map Prod.fst).Nodup) :
    (unlinked sections).WellLinked where
  indexed := indexed_ofTables ((unlinked_names sections).symm ▸ distinct)
  chains := fun id here => by
    -- Every way ends where it begins.
    obtain ⟨table, found⟩ := Option.isSome_iff_exists.mp here
    refine ⟨_, .root found ?_⟩
    simp only [get?, unlinked, ofTables, List.getElem?_map, Option.map_eq_some_iff] at found
    obtain ⟨part, _, rfl⟩ := found
    exact Table.ofEntries_parent part.1 part.2

/-- A name stands for the place of the section that has it. -/
theorem unlinked_idOf?_eq_some_iff (distinct : (sections.map Prod.fst).Nodup) {name : String} :
    (unlinked sections).idOf? name = some id ↔
      ∃ part, sections[id.position]? = some part ∧ part.1 = name := by
  -- The tables stand at the places of their sections and have their names.
  rw [(wellLinked_unlinked distinct).indexed]
  simp only [get?, unlinked, ofTables, List.getElem?_map, Option.map_eq_some_iff]
  constructor
  · rintro ⟨_, ⟨part, located, rfl⟩, named⟩
    exact ⟨part, located, by simpa using named⟩
  · rintro ⟨part, located, named⟩
    exact ⟨_, ⟨part, located, rfl⟩, by simpa using named⟩

/-- The names of sections are those that have a place. -/
theorem exists_idOf?_iff (distinct : (sections.map Prod.fst).Nodup) {name : String} :
    (∃ id, (unlinked sections).idOf? name = some id) ↔ name ∈ sections.map Prod.fst := by
  -- Every section has its table, at the place where it stands among the sections.
  simp only [unlinked_idOf?_eq_some_iff distinct, List.mem_map]
  constructor
  · rintro ⟨_, part, located, named⟩
    exact ⟨part, List.mem_of_getElem? located, named⟩
  · rintro ⟨part, member, named⟩
    obtain ⟨place, located⟩ := List.mem_iff_getElem?.mp member
    exact ⟨⟨place⟩, part, located, named⟩

/-- Other names have no place. -/
theorem idOf?_eq_none (distinct : (sections.map Prod.fst).Nodup) {name : String}
    (absent : name ∉ sections.map Prod.fst) : (unlinked sections).idOf? name = none := by
  rw [← exists_idOf?_iff distinct, not_exists] at absent
  exact Option.eq_none_iff_forall_ne_some.mpr absent

/-- A name has the place of a section exactly if it is the name of that section. -/
theorem idOf?_filter_ne (distinct : (sections.map Prod.fst).Nodup)
    (located : sections[id.position]? = some part) (name : String) :
    ((unlinked sections).idOf? name).filter (· != id) =
      if name = part.1 then none else (unlinked sections).idOf? name := by
  -- Of distinct names only one stands for the place, so the filter removes just that one.
  have own : (unlinked sections).idOf? name = some id ↔ name = part.1 := by
    rw [unlinked_idOf?_eq_some_iff distinct, located]
    simp [eq_comm]
  cases found : (unlinked sections).idOf? name with
  | none => simp
  | some place =>
    rw [found, Option.some.injEq] at own
    -- Its own name is the only one that leads to the place.
    by_cases same : name = part.1
    · rw [if_pos same, own.mpr same]
      simp
    · rw [if_neg same, Option.filter_eq_some_iff]
      exact ⟨rfl, by simpa using fun here => same (own.mp here)⟩

/-- Only a section that is meant to have no parent has none. -/
theorem intendedTable_parent_eq_none_iff (distinct : (sections.map Prod.fst).Nodup) :
    (intendedTable sections part).parent = none ↔ intendedName? sections part = none := by
  simp only [intendedTable, Option.bind_eq_bind]
  cases intended : intendedName? sections part with
  | none => simp
  | some name =>
    -- The section that it is meant to inherit from has a place.
    obtain ⟨place, found⟩ := (exists_idOf?_iff distinct).mpr (intendedName?_mem intended)
    simp [found]

/-- The parent that is looked up for a section is the one that it is meant to have. -/
theorem intendedParent?_eq {registry : Registry} (distinct : (sections.map Prod.fst).Nodup)
    (names : registry.names = placesOf (sections.map Prod.fst))
    (located : sections[id.position]? = some part) :
    registry.intendedParent? id part = (intendedTable sections part).parent := by
  rw [intendedParent?_congr (names.trans (names_unlinked sections).symm)]
  -- Without a section that it names, a section falls back on the default one.
  have default : ((unlinked sections).idOf? defaultSection).filter (· != id) =
      (if defaultSection ∈ sections.map Prod.fst ∧ defaultSection ≠ part.1 then
        some defaultSection else none).bind (unlinked sections).idOf? := by
    rw [idOf?_filter_ne distinct located]
    by_cases present : defaultSection ∈ sections.map Prod.fst
    · by_cases own : defaultSection = part.1 <;> simp [own, present]
    · simp [idOf?_eq_none distinct present, present]
  unfold intendedParent? intendedTable intendedName?
  rw [Option.bind_eq_bind]
  cases declared : declaredParent? part.2 with
  | none => exact default
  | some name =>
    -- A name without a section is treated as if there were none.
    by_cases present : name ∈ sections.map Prod.fst
    · obtain ⟨place, found⟩ := (exists_idOf?_iff distinct).mpr present
      rw [Option.bind_some, Option.filter_some, found, if_pos (decide_eq_true present),
        Option.bind_some, found]
    · have missing := idOf?_eq_none distinct present
      rw [Option.bind_some, Option.filter_some, missing, if_neg (by simpa using present)]
      exact default

end Places

/-! ## Adding the sections -/

/-- Tables of sections are added exactly when no name comes up twice. -/
theorem insertAll_eq_ok_iff {tables : List Table} {result : Registry} {sections : List Section}
    (distinct : (tables.map Table.name).Nodup) :
    (insertAll sections).result (ofTables tables) = (.ok (), result) ↔
      (tables.map Table.name ++ sections.map Prod.fst).Nodup ∧
        result = ofTables (tables ++ (unlinked sections).tables) := by
  -- The name of the first section has to be new among those before it, and so on.
  induction sections generalizing tables with
  | nil =>
    have done : (insertAll []).result (ofTables tables) = (.ok (), ofTables tables) := rfl
    rw [done]
    simp [unlinked, ofTables, distinct, eq_comm]
  | cons part rest ih =>
    have moved : tables.map Table.name ++ (part :: rest).map Prod.fst =
        (tables ++ [Table.ofEntries part.1 part.2]).map Table.name ++ rest.map Prod.fst := by simp
    have joined : tables ++ (unlinked (part :: rest)).tables =
        tables ++ [Table.ofEntries part.1 part.2] ++ (unlinked rest).tables := by
      simp [unlinked, ofTables]
    have longer : ((tables ++ [Table.ofEntries part.1 part.2]).map Table.name).Nodup ↔
        (Table.ofEntries part.1 part.2).name ∉ tables.map Table.name := by
      rw [List.map_append, List.map_singleton, List.nodup_append_comm, List.singleton_append,
        List.nodup_cons, and_iff_left distinct]
    rw [insertAll_cons, Change.result_bind_eq_ok_iff, moved, joined]
    simp only [Change.result_discard_eq_ok_iff, insert_eq_ok_iff, idOf?_ofTables_eq_none_iff]
    constructor
    · -- The new name is distinct from those before it, so the hypothesis covers the rest.
      rintro ⟨_, _, ⟨_, fresh, rfl, rfl⟩, later⟩
      rw [added_ofTables fresh] at later
      exact (ih (longer.mpr fresh)).mp later
    · -- A name that is distinct from those before it is new among them.
      rintro ⟨apart, same⟩
      have grown := (List.nodup_append.mp apart).1
      have fresh := longer.mp grown
      refine ⟨(), _, ⟨_, fresh, rfl, rfl⟩, ?_⟩
      rw [added_ofTables fresh]
      exact (ih grown).mpr ⟨apart, same⟩

/-! ## Linking the sections -/

/-- The tables of sections, of which the first have been given the parents that they are meant to
have and the others have none yet. -/
def partlyLinked (sections done others : List Section) : Registry :=
  ofTables (done.map (intendedTable sections) ++ (unlinked others).tables)

section Linking

variable {sections done others : List Section} {part : Section} {id parent : TableId}

/-- Linking does not touch the index. -/
theorem names_partlyLinked (sections done others : List Section) :
    (partlyLinked sections done others).names = placesOf ((done ++ others).map Prod.fst) := by
  -- The tables have the names of their sections, linked or not.
  rw [partlyLinked, ofTables, List.map_append, unlinked_names, map_name_intendedTable,
    List.map_append]

/-- A section that is meant to have no parent is linked already. -/
theorem partlyLinked_of_none (top : (intendedTable sections part).parent = none) :
    partlyLinked sections done (part :: others) =
      partlyLinked sections (done ++ [part]) others := by
  -- Its table is the same before and after.
  have linked : Table.ofEntries part.1 part.2 = intendedTable sections part :=
    (ofEntries_without_parent part).symm.trans (top ▸ rfl)
  simp [partlyLinked, unlinked, ofTables, linked]

/-- The next section is linked by giving it the parent that it is meant to have. -/
theorem relink_partlyLinked (linked : (intendedTable sections part).parent = some parent) :
    (partlyLinked sections done (part :: others)).relink ⟨done.length⟩ parent =
      partlyLinked sections (done ++ [part]) others := by
  have table : { Table.ofEntries part.1 part.2 with parent := some parent } =
      intendedTable sections part := linked ▸ rfl
  -- The table that changes is the first behind those that are linked.
  have changed : ∀ (before : List Table) (change : Table → Table) (first : Table)
      (rest : List Table), (before ++ first :: rest).modify before.length change =
        before ++ change first :: rest := by
    intro before change first rest
    induction before with
    | nil => rfl
    | cons other before ih =>
      rw [List.cons_append, List.length_cons, List.modify_succ_cons, ih, List.cons_append]
  have same := changed (done.map (intendedTable sections))
    (fun table => { table with parent := some parent }) (Table.ofEntries part.1 part.2)
    (unlinked others).tables
  rw [List.length_map, table] at same
  -- With that, one section more is linked.
  have shifted : done.map (intendedTable sections) ++
      intendedTable sections part :: (unlinked others).tables =
        (done ++ [part]).map (intendedTable sections) ++ (unlinked others).tables := by simp
  rw [partlyLinked, partlyLinked, relink_ofTables, ← shifted]
  exact congrArg ofTables same

/-- The parents of linked sections are those that they are meant to have. -/
theorem intended_of_parent (distinct : (sections.map Prod.fst).Nodup)
    (located : sections[id.position]? = some part)
    (linked : (intendedTable sections part).parent = some parent) :
    Intended sections ((unlinked sections).nameOf id) ((unlinked sections).nameOf parent) := by
  -- Behind both places stand sections, and the tables there have their names.
  have nameOf_eq : ∀ {place : TableId} {named : Section}, sections[place.position]? = some named →
      (unlinked sections).nameOf place = named.1 := by
    intro place named there
    simp [nameOf, get?, unlinked, ofTables, there]
  obtain ⟨name, intended, place⟩ := Option.bind_eq_some_iff.mp linked
  obtain ⟨other, there, same⟩ := (unlinked_idOf?_eq_some_iff distinct).mp place
  rw [nameOf_eq located, nameOf_eq there, same]
  exact ⟨part, List.mem_of_getElem? located, rfl, intended⟩

/-- A change of parent that links a section as it is meant to be makes a cycle only if the parents
that the sections are meant to have do. -/
theorem cycle_of_relinked (distinct : (sections.map Prod.fst).Nodup)
    (whole : sections = done ++ part :: others)
    (linked : (intendedTable sections part).parent = some parent) {child : TableId}
    (cycle : TransGen ((partlyLinked sections done (part :: others)).Relinked ⟨done.length⟩ parent)
      child child) :
    ∃ name, TransGen (Intended sections) name name := by
  -- Every link is between sections that are meant to be linked.
  refine ⟨_, TransGen.lift (unlinked sections).nameOf (fun first second related => ?_) _ _ cycle⟩
  unfold Relinked at related
  split at related
  · rename_i same
    subst same related
    exact intended_of_parent distinct (by simp [whole]) linked
  · obtain ⟨table, found, up⟩ := related
    simp only [get?, partlyLinked, ofTables, List.getElem?_append, List.length_map,
      List.getElem?_map] at found
    split at found
    · rename_i below
      obtain ⟨named, there, rfl⟩ := Option.map_eq_some_iff.mp found
      refine intended_of_parent distinct ?_ up
      rw [whole, List.getElem?_append_left below, there]
    · -- The other sections have no parent yet.
      simp only [unlinked, ofTables, List.getElem?_map, Option.map_eq_some_iff] at found
      obtain ⟨named, _, rfl⟩ := found
      rw [Table.ofEntries_parent] at up
      cases up

/-- From a registry in which the first sections have been linked, the others are linked as they are
meant to be, unless that makes a cycle. -/
theorem linkFrom_partlyLinked (distinct : (sections.map Prod.fst).Nodup)
    (whole : sections = done ++ others)
    (linked : (partlyLinked sections done others).WellLinked) :
    (linkFrom done.length others).result (partlyLinked sections done others) =
        (.ok (), intendedRegistry sections) ∨
      (∃ error left, (linkFrom done.length others).result (partlyLinked sections done others) =
          (.error error, left)) ∧
        ∃ name, TransGen (Intended sections) name name := by
  -- The sections are linked one after the other, and the registry stays well linked.
  induction others generalizing done with
  | nil =>
    rw [List.append_nil] at whole
    subst whole
    have complete : partlyLinked sections sections [] = intendedRegistry sections := by
      simp [partlyLinked, intendedRegistry, unlinked, ofTables]
    rw [complete]
    exact .inl rfl
  | cons part rest ih =>
    have parent : (partlyLinked sections done (part :: rest)).intendedParent? ⟨done.length⟩ part =
        (intendedTable sections part).parent :=
      intendedParent?_eq distinct (by rw [names_partlyLinked, whole]) (by simp [whole])
    -- The section is the first of those that are not linked yet.
    have following : sections = done ++ [part] ++ rest := by simp [whole]
    have later := ih following
    rw [List.length_append, List.length_singleton] at later
    rw [linkFrom, Change.result_bind, result_link, parent]
    cases intended : (intendedTable sections part).parent with
    | none =>
      -- A section without a parent leaves its table as it is.
      rw [partlyLinked_of_none intended] at linked ⊢
      exact later linked
    | some up =>
      have here : ((partlyLinked sections done (part :: rest)).get? ⟨done.length⟩).isSome := by
        simp [get?_isSome_iff, size, partlyLinked, unlinked, ofTables]
      have there := linked.indexed.intendedParent?_isSome (parent.trans intended)
      dsimp only
      cases outcome : (setParent ⟨done.length⟩ up).result
          (partlyLinked sections done (part :: rest)) with
      | mk answer next =>
        cases answer with
        | ok answer =>
          have stays := linked.setParent there outcome
          obtain ⟨_, rfl⟩ := setParent_eq_ok_iff.mp outcome
          rw [relink_partlyLinked intended] at stays ⊢
          exact later stays
        | error error =>
          -- The change would have made a cycle.
          obtain ⟨_, cycle⟩ := (linked.setParent_fails_iff here there).mp ⟨error, next, outcome⟩
          exact .inr ⟨⟨error, next, rfl⟩, cycle_of_relinked distinct whole intended cycle⟩

end Linking

/-! ## The registry of the sections -/

section Built

variable {sections : List Section} {id : TableId} {part : Section}

/-- The table at the place of a section is that of the section. -/
theorem get?_intendedRegistry (located : sections[id.position]? = some part) :
    (intendedRegistry sections).get? id = some (intendedTable sections part) := by
  simp [get?, intendedRegistry, ofTables, located]

/-- Linking does not change which name has which place. -/
@[simp] theorem intendedRegistry_idOf? (sections : List Section) :
    (intendedRegistry sections).idOf? = (unlinked sections).idOf? :=
  idOf?_congr ((congrArg placesOf (intendedRegistry_names sections)).trans
    (names_unlinked sections).symm)

/-- Where a section is meant to inherit from another, its table does. -/
theorem inherits_of_intended (distinct : (sections.map Prod.fst).Nodup) {child parent : String}
    (intended : Intended sections child parent) :
    (intendedRegistry sections).Inherits (((unlinked sections).idOf? child).getD ⟨0⟩)
      (((unlinked sections).idOf? parent).getD ⟨0⟩) := by
  -- Both names have places, and the table of the first has the second one as its parent.
  obtain ⟨part, member, rfl, intended⟩ := intended
  obtain ⟨above, higher⟩ := (exists_idOf?_iff distinct).mpr (intendedName?_mem intended)
  obtain ⟨place, located⟩ := List.mem_iff_getElem?.mp member
  have own : (unlinked sections).idOf? part.1 = some ⟨place⟩ :=
    (unlinked_idOf?_eq_some_iff distinct).mpr ⟨part, located, rfl⟩
  rw [own, higher]
  refine ⟨_, get?_intendedRegistry located, ?_⟩
  exact Option.bind_eq_some_iff.mpr ⟨parent, intended, higher⟩

/-- Sections make up a registry exactly when their names are distinct and the parents that they are
meant to have make no cycle, and then it is the one with these parents. -/
theorem ofSections_eq_ok_iff {result : Registry} :
    ofSections sections = .ok result ↔
      (sections.map Prod.fst).Nodup ∧ (∀ name, ¬TransGen (Intended sections) name name) ∧
        result = intendedRegistry sections := by
  have added : ∀ {inserted}, (insertAll sections).result empty = (.ok (), inserted) ↔
      (sections.map Prod.fst).Nodup ∧ inserted = unlinked sections :=
    fun {inserted} => @insertAll_eq_ok_iff [] inserted sections List.nodup_nil
  have linking := fun distinct : (sections.map Prod.fst).Nodup =>
    linkFrom_partlyLinked distinct (List.nil_append sections).symm (wellLinked_unlinked distinct)
  constructor
  · -- Sections are added first and linked then, and neither step has failed.
    intro built
    have linked := wellLinked_ofSections built
    obtain ⟨_, inserted, step, last⟩ :=
      Change.result_bind_eq_ok_iff.mp (ofSections_eq_ok_iff_populate.mp built)
    obtain ⟨distinct, rfl⟩ := added.mp step
    rcases linking distinct with complete | ⟨⟨error, left, refused⟩, _⟩
    · obtain ⟨_, rfl⟩ := Prod.mk.inj (complete.symm.trans last)
      refine ⟨distinct, fun name cycle => ?_, rfl⟩
      -- A cycle of the sections would be one of their tables.
      exact acyclic_of_chains linked.chains _
        (TransGen.lift (fun name => ((unlinked sections).idOf? name).getD ⟨0⟩)
          (fun _ _ => inherits_of_intended distinct) _ _ cycle)
    · cases refused.symm.trans last
  · -- Without a cycle no parent is refused.
    rintro ⟨distinct, acyclic, rfl⟩
    refine ofSections_eq_ok_iff_populate.mpr
      (Change.result_bind_eq_ok_iff.mpr ⟨(), _, added.mpr ⟨distinct, rfl⟩, ?_⟩)
    rcases linking distinct with complete | ⟨_, name, cycle⟩
    · exact complete
    · exact absurd cycle (acyclic name)

/-- The table at the place of a name has that name. -/
theorem idOf?_map_nameOf {registry : Registry} (linked : registry.WellLinked) (name : String) :
    (registry.idOf? name).map registry.nameOf =
      if name ∈ registry.tables.map Table.name then some name else none := by
  cases found : registry.idOf? name with
  | none =>
    -- A table of that name would have been found.
    rw [if_neg, Option.map_none]
    intro member
    obtain ⟨table, there, rfl⟩ := List.mem_map.mp member
    obtain ⟨place, located⟩ := List.mem_iff_getElem?.mp there
    have other : registry.idOf? table.name = some ⟨place⟩ :=
      (linked.indexed _ _).mpr ⟨table, located, rfl⟩
    rw [found] at other
    cases other
  | some id =>
    -- The table at the place that was found has this name.
    obtain ⟨table, there, rfl⟩ := (linked.indexed _ _).mp found
    rw [if_pos (List.mem_map_of_mem (List.mem_of_getElem? there))]
    simp [nameOf, there]

end Built

/-! ## Another order -/

section Order

variable {sections other : List Section} {id place : TableId} {part : Section}

/-- In another order, every section is meant to have the same parent. -/
theorem intendedName?_of_perm (reordered : other.Perm sections) (part : Section) :
    intendedName? other part = intendedName? sections part :=
  intendedName?_congr (fun _ => (reordered.map Prod.fst).mem_iff) part

/-- In another order, sections make up a registry as well. -/
theorem exists_ofSections_of_perm (reordered : other.Perm sections) :
    (∃ registry, ofSections other = .ok registry) ↔
      ∃ registry, ofSections sections = .ok registry := by
  -- Neither the names nor the parents that are meant depend on the order.
  have related : Intended other = Intended sections := by
    funext child parent
    simp only [Intended, intendedName?_of_perm reordered, reordered.mem_iff]
  simp only [ofSections_eq_ok_iff, related, (reordered.map Prod.fst).nodup_iff]
  simp

/-- In another order, a name stands for another place of the same section. -/
theorem located_of_perm (distinct : (sections.map Prod.fst).Nodup)
    (reordered : other.Perm sections) {name : String} (located : sections[id.position]? = some part)
    (named : part.1 = name) (there : (unlinked other).idOf? name = some place) :
    other[place.position]? = some part := by
  obtain ⟨again, located', rfl⟩ :=
    (unlinked_idOf?_eq_some_iff ((reordered.map Prod.fst).nodup_iff.mpr distinct)).mp there
  -- Of different sections with one name there are none.
  obtain rfl : part = again := List.inj_on_of_nodup_map distinct (List.mem_of_getElem? located)
    (reordered.mem_iff.mp (List.mem_of_getElem? located')) named
  exact located'

/-- A question about a table in which its parent has no part. -/
def Own {α : Type} (pick : Table → Option α) : Prop :=
  ∀ table parent, pick { table with parent := parent } = pick table

/-- In another order, the way up from a section has the same answers to such questions. -/
theorem Chain.reordered {α : Type} {pick : Table → Option α} (own : Own pick)
    (distinct : (sections.map Prod.fst).Nodup) (reordered : other.Perm sections)
    {chain : List (TableId × Table)} (whole : (intendedRegistry sections).Chain id chain)
    (here : sections[id.position]? = some part) (there : other[place.position]? = some part) :
    ∃ again, (intendedRegistry other).Chain place again ∧
      again.findSome? (fun entry => pick entry.2) =
        chain.findSome? (fun entry => pick entry.2) := by
  have distinct' : (other.map Prod.fst).Nodup := (reordered.map Prod.fst).nodup_iff.mpr distinct
  have alike : ∀ part, pick (intendedTable other part) = pick (intendedTable sections part) :=
    fun part => (own _ _).trans (own _ _).symm
  -- The parents have the same names, so they are the same sections.
  induction whole generalizing place part with
  | @root id table found top =>
    -- Without a parent in one order, there is none in the other.
    obtain rfl : _ = table := Option.some.inj ((get?_intendedRegistry here).symm.trans found)
    refine ⟨_, .root (get?_intendedRegistry there) ?_, ?_⟩
    · rw [intendedTable_parent_eq_none_iff distinct] at top
      rw [intendedTable_parent_eq_none_iff distinct', intendedName?_of_perm reordered, top]
    · simp only [List.findSome?_singleton, alike]
  | @link id parent table above found linked _ ih =>
    -- The section above has the same name, but another place.
    obtain rfl : _ = table := Option.some.inj ((get?_intendedRegistry here).symm.trans found)
    obtain ⟨name, intended, higher⟩ := Option.bind_eq_some_iff.mp linked
    obtain ⟨up, located, named⟩ := (unlinked_idOf?_eq_some_iff distinct).mp higher
    obtain ⟨again, higher'⟩ := (exists_idOf?_iff distinct').mpr
      ((reordered.map Prod.fst).mem_iff.mpr (intendedName?_mem intended))
    have located' := located_of_perm distinct reordered located named higher'
    obtain ⟨rest, chained, same⟩ := ih located located'
    refine ⟨_, .link (get?_intendedRegistry there) ?_ chained, ?_⟩
    · exact Option.bind_eq_some_iff.mpr
        ⟨name, (intendedName?_of_perm reordered part).trans intended, higher'⟩
    · simp only [List.findSome?_cons, alike, same]

/-- In another order, the tables of a section inherit the same. -/
theorem inherited?_of_perm {α : Type} {pick : Table → Option α} (own : Own pick)
    (reordered : other.Perm sections) {first second : Registry}
    (built : ofSections sections = .ok first) (rebuilt : ofSections other = .ok second)
    {name : String} (here : first.idOf? name = some id) (there : second.idOf? name = some place) :
    second.inherited? place pick = first.inherited? id pick := by
  -- What is inherited is the first answer on the way up.
  have linked := wellLinked_ofSections built
  obtain ⟨distinct, _, rfl⟩ := ofSections_eq_ok_iff.mp built
  obtain ⟨_, _, rfl⟩ := ofSections_eq_ok_iff.mp rebuilt
  rw [intendedRegistry_idOf?] at here there
  obtain ⟨part, located, named⟩ := (unlinked_idOf?_eq_some_iff distinct).mp here
  have found : ((intendedRegistry sections).get? id).isSome := by
    rw [get?_intendedRegistry located]
    rfl
  obtain ⟨chain, chained, answers⟩ := (linked.chain_lineage found).reordered own distinct reordered
    located (located_of_perm distinct reordered located named there)
  rw [inherited?, inherited?, chained.lineage_eq, answers]

/-- In another order, an event has a table of the same name. -/
theorem tableFor?_of_perm (reordered : other.Perm sections) {first second : Registry}
    (built : ofSections sections = .ok first) (rebuilt : ofSections other = .ok second)
    (event : String) :
    (second.tableFor? event).map second.nameOf = (first.tableFor? event).map first.nameOf := by
  -- The event has the table of its own name or else the default one, whose names are the same.
  have either : ∀ registry : Registry, registry.tableFor? event =
      (registry.idOf? event).or (registry.idOf? defaultSection) := by
    intro registry
    unfold tableFor?
    cases registry.idOf? event <;> rfl
  have names : ∀ name,
      name ∈ second.tables.map Table.name ↔ name ∈ first.tables.map Table.name := by
    obtain ⟨_, _, rfl⟩ := ofSections_eq_ok_iff.mp built
    obtain ⟨_, _, rfl⟩ := ofSections_eq_ok_iff.mp rebuilt
    intro name
    rw [intendedRegistry_names, intendedRegistry_names, (reordered.map Prod.fst).mem_iff]
  simp only [either, Option.map_or, idOf?_map_nameOf (wellLinked_ofSections built),
    idOf?_map_nameOf (wellLinked_ofSections rebuilt), names]

end Order

/-- Sections make up a registry exactly when their names are distinct and the parents that they are
meant to have make no cycle.  Then the tables are those of the sections, each with the parent that
it is meant to have.  So the order of the sections does not matter: in any other order they make up
a registry as well or not at all, an event has the table of the same section, and the table of a
section inherits the same variables, destination and template. -/
theorem sections_decide_registry (sections : List Section) :
    ((∃ registry, ofSections sections = .ok registry) ↔
      (sections.map Prod.fst).Nodup ∧ ∀ name, ¬TransGen (Intended sections) name name) ∧
    (∀ registry, ofSections sections = .ok registry →
      registry.tables.map Table.name = sections.map Prod.fst ∧
      ∀ part ∈ sections, ∃ id table, registry.idOf? part.1 = some id ∧
        registry.get? id = some table ∧
        { table with parent := none } = Table.ofEntries part.1 part.2 ∧
        table.parent = intendedName? sections part >>= registry.idOf?) ∧
    ∀ other, other.Perm sections →
      ((∃ registry, ofSections other = .ok registry) ↔
        ∃ registry, ofSections sections = .ok registry) ∧
      ∀ first second, ofSections sections = .ok first → ofSections other = .ok second →
        (∀ event, (second.tableFor? event).map second.nameOf =
          (first.tableFor? event).map first.nameOf) ∧
        ∀ name here there, first.idOf? name = some here → second.idOf? name = some there →
          (∀ wanted, second.sourceOf? there wanted = first.sourceOf? here wanted) ∧
            second.destination? there = first.destination? here ∧
            second.template? there = first.template? here := by
  refine ⟨?_, fun registry built => ?_, fun other reordered =>
    ⟨exists_ofSections_of_perm reordered, fun first second built rebuilt =>
      ⟨tableFor?_of_perm reordered built rebuilt, fun name here there found again => ?_⟩⟩⟩
  · simp only [ofSections_eq_ok_iff]
    simp
  · -- The only registry there can be is the one with the parents that are meant.
    obtain ⟨distinct, _, rfl⟩ := ofSections_eq_ok_iff.mp built
    refine ⟨intendedRegistry_names sections, fun part member => ?_⟩
    obtain ⟨place, located⟩ := List.mem_iff_getElem?.mp member
    refine ⟨⟨place⟩, intendedTable sections part, ?_, get?_intendedRegistry located, ?_, ?_⟩
    · rw [intendedRegistry_idOf?]
      exact (unlinked_idOf?_eq_some_iff distinct).mpr ⟨part, located, rfl⟩
    · exact ofEntries_without_parent part
    · rw [intendedRegistry_idOf?, intendedTable]
  · -- A variable, a destination and a template are each the first that is found on the way up.
    exact ⟨fun wanted => inherited?_of_perm (fun _ _ => rfl) reordered built rebuilt found again,
      inherited?_of_perm (fun _ _ => rfl) reordered built rebuilt found again,
      inherited?_of_perm (fun _ _ => rfl) reordered built rebuilt found again⟩

/-- Sections of which the first inherits from the second, and that one from the last, since it names
a section that does not exist. -/
def relatives : List Section :=
  [("push", [("Parent", "base")]), ("base", [("parent", "nowhere")]),
    ("default", [("who", "world")])]

/-- A default section that names a parent, which falls back on the default section. -/
def ring : List Section :=
  [("default", [("parent", "other")]), ("other", [])]

theorem sections_decide_registry_relatives :
    (∃ first second, ofSections relatives = .ok first ∧ ofSections relatives.reverse = .ok second ∧
      (∀ event, (second.tableFor? event).map second.nameOf =
        (first.tableFor? event).map first.nameOf) ∧
      first.sourceOf? ⟨0⟩ "WHO" = some "world" ∧
      second.sourceOf? ⟨2⟩ "WHO" = first.sourceOf? ⟨0⟩ "WHO") ∧
    TransGen (Intended ring) "default" "default" ∧
    ¬∃ registry, ofSections ring = .ok registry := by
  -- The default section names the other one, which falls back on it.
  have cycle : TransGen (Intended ring) "default" "default" :=
    .tail (.single ⟨("default", [("parent", "other")]), by decide, rfl, by decide +kernel⟩)
      ⟨("other", []), by decide, rfl, by decide +kernel⟩
  have refused : ¬∃ registry, ofSections ring = .ok registry := fun built =>
    ((sections_decide_registry ring).1.mp built).2 "default" cycle
  refine ⟨?_, cycle, refused⟩
  -- In the reverse order the first section has the last place.
  obtain ⟨_, _, reordered⟩ := sections_decide_registry relatives
  obtain ⟨_, same⟩ := reordered relatives.reverse relatives.reverse_perm
  have built : ofSections relatives = .ok (intendedRegistry relatives) := by decide +kernel
  have rebuilt : ofSections relatives.reverse = .ok (intendedRegistry relatives.reverse) := by
    decide +kernel
  obtain ⟨events, inherited⟩ := same _ _ built rebuilt
  exact ⟨_, _, built, rebuilt, events, by decide +kernel,
    (inherited "push" ⟨0⟩ ⟨2⟩ (by decide +kernel) (by decide +kernel)).1 "WHO"⟩

end PayloadTemplate.Variables.Registry
