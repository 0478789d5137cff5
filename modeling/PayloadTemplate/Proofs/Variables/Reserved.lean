import Mathlib.Data.List.Induction
import PayloadTemplate.Proofs.Entries
import PayloadTemplate.Proofs.Render.Resolver
import PayloadTemplate.Proofs.Text.Lowercase
import PayloadTemplate.Proofs.Variables.Runs

/-!
What becomes of the entries of a section.  The last entry of a name counts, and what a reserved name
is given never becomes a variable, neither of the section nor of one that inherits from it.
-/

namespace PayloadTemplate.Variables

open Text

/-! ## The entries of a name -/

/-- The value of the first entry whose name in lower case is the given one. -/
def firstNamed? (entries : List (String × String)) (name : String) : Option String :=
  (entries.find? fun entry => lowercase entry.1 == name).map (·.2)

/-- The value of the last entry whose name in lower case is the given one. -/
def lastNamed? (entries : List (String × String)) (name : String) : Option String :=
  firstNamed? entries.reverse name

/-- The first entry counts if it is one of the name. -/
theorem firstNamed?_cons (entry : String × String) (rest : List (String × String))
    (name : String) :
    firstNamed? (entry :: rest) name =
      if lowercase entry.1 = name then some entry.2 else firstNamed? rest name := by
  -- The entry in front is found first.
  by_cases named : lowercase entry.1 = name
  · simp [firstNamed?, named]
  · simp [firstNamed?, named, beq_false_of_ne named]

/-- A further entry counts if it is one of the name. -/
theorem lastNamed?_append (entries : List (String × String)) (entry : String × String)
    (name : String) :
    lastNamed? (entries ++ [entry]) name =
      if lowercase entry.1 = name then some entry.2 else lastNamed? entries name := by
  rw [lastNamed?, List.reverse_append, List.reverse_singleton, List.singleton_append,
    firstNamed?_cons, lastNamed?]

/-! ## What a table takes from an entry -/

section Entry

variable (table : Table) (entry : String × String)

/-- An entry that is not reserved defines a variable. -/
theorem Table.add_definitions :
    (table.add entry).definitions =
      if lowercase entry.1 ∈ reservedNames then table.definitions
      else Entries.put (lowercase entry.1) entry.2 table.definitions := by
  -- Three names are tried before a variable is defined, and no other is reserved.
  rw [Table.add]
  by_cases reserved : lowercase entry.1 ∈ reservedNames
  · rw [if_pos reserved]
    simp only [reservedNames, List.mem_cons, List.not_mem_nil, or_false] at reserved
    obtain named | named | named := reserved <;> simp [named]
  · rw [if_neg reserved]
    simp only [reservedNames, List.mem_cons, List.not_mem_nil, or_false, not_or] at reserved
    simp [reserved]

/-- An entry for the destination replaces it. -/
theorem Table.add_destination :
    (table.add entry).destination =
      if lowercase entry.1 = "destination" then property entry.2 else table.destination := by
  -- What other entries do leaves the destination alone.
  rw [Table.add]
  split
  · rfl
  · repeat' split
    all_goals rfl

/-- An entry for the template file replaces it. -/
theorem Table.add_template :
    (table.add entry).template =
      if lowercase entry.1 = "template" then property entry.2 else table.template := by
  -- Any other name leaves the template alone.
  rw [Table.add]
  by_cases named : lowercase entry.1 = "template"
  · simp [named]
  · rw [if_neg named]
    repeat' split
    all_goals rfl

end Entry

/-! ## What a table takes from its entries -/

/-- An empty property is absent. -/
theorem property_eq_filter (value : String) :
    property value = (some value).filter (· != "") := by
  -- An empty value counts as none.
  unfold property
  split
  · rename_i empty
    rw [empty]
    rfl
  · rename_i filled
    rw [Option.filter_some, if_pos (bne_iff_ne.mpr filled)]

section Entries

variable {title : String} {entries : List (String × String)}

/-- The last entry is added last. -/
theorem Table.ofEntries_append (entry : String × String) :
    Table.ofEntries title (entries ++ [entry]) = (Table.ofEntries title entries).add entry := by
  rw [Table.ofEntries, List.foldl_append, ← Table.ofEntries, List.foldl_cons, List.foldl_nil]

/-- The variables of a section are the last entries of the names that are not reserved. -/
theorem Table.lookup_ofEntries (name : String) :
    (Table.ofEntries title entries).definitions.lookup name =
      if name ∈ reservedNames then none else lastNamed? entries name := by
  -- Entry by entry: one of a reserved name defines nothing, any other its own name.
  induction entries using List.reverseRecOn with
  | nil => simp [Table.ofEntries, lastNamed?, firstNamed?]
  | append_singleton rest entry ih =>
    rw [ofEntries_append, add_definitions, lastNamed?_append]
    by_cases reserved : lowercase entry.1 ∈ reservedNames
    · -- The new entry defines nothing.
      rw [if_pos reserved, ih]
      split
      · rfl
      · rename_i free
        rw [if_neg fun same : lowercase entry.1 = name => free (same ▸ reserved)]
    · rw [if_neg reserved, Entries.lookup_put, ih]
      split
      · rename_i named
        rw [if_neg (named ▸ reserved)]
      · rfl

/-- The names of a section's variables are those of its entries that are not reserved. -/
theorem Table.mem_names_ofEntries (name : String) :
    name ∈ (Table.ofEntries title entries).definitions.map Prod.fst ↔
      name ∉ reservedNames ∧ ∃ entry ∈ entries, lowercase entry.1 = name := by
  -- Entry by entry again: a name stays once it is there.
  induction entries using List.reverseRecOn with
  | nil => simp [Table.ofEntries]
  | append_singleton rest entry ih =>
    rw [ofEntries_append, add_definitions]
    by_cases reserved : lowercase entry.1 ∈ reservedNames
    · -- The entry is none of a name that is not reserved.
      rw [if_pos reserved, ih]
      refine and_congr_right fun free => ?_
      have other : lowercase entry.1 ≠ name := fun same => free (same ▸ reserved)
      simp [or_and_right, exists_or, other]
    · rw [if_neg reserved, Entries.mem_keys_put, ih]
      constructor
      · rintro (rfl | ⟨free, other, member, named⟩)
        · exact ⟨reserved, entry, by simp, rfl⟩
        · exact ⟨free, other, by simp [member], named⟩
      · rintro ⟨free, other, member, named⟩
        obtain member | rfl := by simpa using member
        · exact .inr ⟨free, other, member, named⟩
        · exact .inl named.symm

/-- A property that entries of one name replace is that of the last of them, unless it is empty. -/
theorem Table.property_ofEntries {read : Table → Option String} {word : String}
    (replaced : ∀ table entry, read (Table.add table entry) =
      if lowercase entry.1 = word then property entry.2 else read table)
    (absent : read { name := title } = none) :
    read (Table.ofEntries title entries) = (lastNamed? entries word).filter (· != "") := by
  -- An empty value takes the property away again.
  induction entries using List.reverseRecOn with
  | nil => exact absent
  | append_singleton rest entry ih =>
    rw [ofEntries_append, replaced, ih, lastNamed?_append, property_eq_filter]
    split <;> rfl

end Entries

/-- What a table holds of the entries of a section. -/
structure Table.Holds (table : Table) (entries : List (String × String)) : Prop where
  /-- The names of variables are those of entries in lower case, but for reserved ones. -/
  names : ∀ name, name ∈ table.definitions.map Prod.fst ↔
    name ∉ reservedNames ∧ ∃ entry ∈ entries, lowercase entry.1 = name
  /-- Such a name is in lower case already. -/
  settled : ∀ name ∈ table.definitions.map Prod.fst, lowercase name = name
  /-- A variable has the value of the last entry of its name, and a reserved name has none. -/
  own : ∀ name, table.own? name =
    if lowercase name ∈ reservedNames then none else lastNamed? entries (lowercase name)
  /-- The destination is that of the last entry for it, unless that is empty. -/
  destination : table.destination = (lastNamed? entries "destination").filter (· != "")
  /-- The template file is that of the last entry for it, unless that is empty. -/
  template : table.template = (lastNamed? entries "template").filter (· != "")

/-- The table of a section holds its entries. -/
theorem Table.holds_ofEntries (title : String) (entries : List (String × String)) :
    (Table.ofEntries title entries).Holds entries where
  names := mem_names_ofEntries
  settled := fun name member => by
    obtain ⟨_, entry, _, rfl⟩ := (mem_names_ofEntries name).mp member
    exact lowercase_lowercase entry.1
  own := fun name => lookup_ofEntries (lowercase name)
  destination := property_ofEntries add_destination rfl
  template := property_ofEntries add_template rfl

/-! ## Parents -/

/-- An entry can be left out of every section exactly when it names a parent. -/
theorem Table.ofEntries_ignores_iff {key : String} :
    (∀ title before value after, Table.ofEntries title (before ++ (key, value) :: after) =
      Table.ofEntries title (before ++ after)) ↔ lowercase key = "parent" := by
  constructor
  · intro ignored
    -- Any other entry can be seen in the table of a section without further entries.
    have empty : Table.add { name := "" } (key, "x") = { name := "" } := ignored "" [] "x" []
    by_contra other
    unfold Table.add at empty
    dsimp only at empty
    split at empty
    · simp [property] at empty
    · split at empty
      · simp [property] at empty
      · simp [Entries.put] at empty
  · intro named title before value after
    -- The tables before and behind such an entry are the same.
    have kept : ∀ table, Table.add table (key, value) = table := fun table => by
      simp [Table.add, named]
    rw [ofEntries, ofEntries, List.foldl_append, List.foldl_append, List.foldl_cons, kept]

/-- The parent that a section names is that of its first entry for it, in any script. -/
theorem Registry.declaredParent?_eq (entries : List (String × String)) :
    declaredParent? entries = firstNamed? entries "parent" := by
  -- No letter of the word is the small form of a character beyond ASCII.
  have same : ∀ key, sameIgnoringAsciiCase key "parent" = (lowercase key == "parent") := by
    intro key
    rw [Bool.eq_iff_iff, beq_iff_eq]
    exact sameIgnoringAsciiCase_iff_lowercase (by decide) (by decide) (by decide +kernel)
  simp only [declaredParent?, firstNamed?, same]

/-- An entry is read as naming a parent exactly when its key does so in lower case. -/
theorem Registry.declaredParent?_singleton_iff {key : String} :
    (∀ value, declaredParent? [(key, value)] = some value) ↔ lowercase key = "parent" := by
  -- Were the key another one, even the empty value would not be read from it.
  simp only [declaredParent?_eq, firstNamed?_cons]
  constructor
  · intro read
    by_contra other
    have := read ""
    rw [if_neg other] at this
    cases this
  · exact fun named value => if_pos named

/-! ## Registries -/

namespace Registry

/-- No table of a registry defines a reserved name. -/
theorem unreserved_invariant : Invariant fun registry => ∀ table ∈ registry.tables,
    ∀ name, lowercase name ∈ reservedNames → table.own? name = none :=
  tables_invariant
    (fun title entries name reserved => by
      rw [(Table.holds_ofEntries title entries).own, if_pos reserved])
    fun _ _ free => free

end Registry

/-- What the table of a section holds of its entries: the last entry of each name, and nothing under
a reserved name.  The keys that name a parent are those that leave every table as it is, in any
script, and the parent is that of the first one.  So in every registry that operations lead to, a
reference to a variable of a reserved name, however it is spelled, is null. -/
theorem reserved_names_never_leak :
    (∀ title entries, (Table.ofEntries title entries).Holds entries) ∧
    (∀ entries, Registry.declaredParent? entries = firstNamed? entries "parent") ∧
    (∀ key, (∀ value, Registry.declaredParent? [(key, value)] = some value) ↔
      ∀ title before value after, Table.ofEntries title (before ++ (key, value) :: after) =
        Table.ofEntries title (before ++ after)) ∧
    ∀ registry : Registry, registry.Reachable → ∀ name, lowercase name ∈ reservedNames →
      ∀ id payload depth nested bindings,
        (Render.resolve ⟨payload, some (registry.sourceOf? id), depth⟩ nested ("config." ++ name)
          bindings).outcome = .ok .null := by
  refine ⟨Table.holds_ofEntries, Registry.declaredParent?_eq, fun key => ?_, ?_⟩
  · exact Registry.declaredParent?_singleton_iff.trans Table.ofEntries_ignores_iff.symm
  · intro registry reachable name reserved id payload depth nested bindings
    -- No table of the registry defines the name, so no search finds it.
    have free := Registry.unreserved_invariant.of_reachable reachable
    have missing : registry.sourceOf? id name = none :=
      Registry.inherited?_eq_none (fun table member => free table member name reserved) id
    refine Render.resolve_undefined (Render.pathRoot_variable name) rfl ?_ nested bindings
    rw [Render.pathName_variable, missing]

/-- Two sections.  The second one inherits the destination of the first, and an entry for its own
came to nothing. -/
def guarded : Registry :=
  .ofTables [
    { name := "default", definitions := [("who", "world")],
      destination := some "https://hooks.example/secret" },
    { name := "push", parent := some ⟨0⟩ }]

/-- The second section's destination is known, but no template can read it. -/
theorem reserved_names_never_leak_guarded :
    guarded.Reachable ∧ lowercase "DestiNation" ∈ reservedNames ∧
      guarded.destination? ⟨1⟩ = some "https://hooks.example/secret" ∧
      (Render.resolve ⟨.null, some (guarded.sourceOf? ⟨1⟩), 0⟩ (fun _ => pure none)
        ("config." ++ "DestiNation") []).outcome = .ok .null := by
  -- The destination is inherited as a property, and never seen as a variable.
  have built : Registry.ofSections [
      ("default", [("Who", "world"), ("DESTINATION", "https://hooks.example/secret")]),
      ("push", [("destination", "https://hooks.example/push"), ("Destination", "")])] =
      .ok guarded := by decide +kernel
  have reserved : lowercase "DestiNation" ∈ reservedNames := by decide +kernel
  refine ⟨.ofSections built, reserved, rfl, ?_⟩
  exact reserved_names_never_leak.2.2.2 guarded (.ofSections built) _ reserved ⟨1⟩ .null 0 _ []

end PayloadTemplate.Variables
