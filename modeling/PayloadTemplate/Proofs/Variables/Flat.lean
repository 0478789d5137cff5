import Mathlib.Data.List.Find
import PayloadTemplate.Proofs.Render.References
import PayloadTemplate.Proofs.Variables.Reserved
import PayloadTemplate.Variables.Lookup

/-!
One section and a flat table of the same variables.  Where no two names differ in their case alone,
both find the same variables, and every source is rendered in the same way with either of them.
-/

namespace PayloadTemplate.Variables

open Render Text

/-- Variables of which a flat table and a section can be made alike. -/
structure Unambiguous (pairs : List (String × String)) : Prop where
  /-- Names and templates are ASCII texts. -/
  plain : ∀ pair ∈ pairs, IsAscii pair.1 ∧ IsAscii pair.2
  /-- No two names differ in their case alone. -/
  distinct : pairs.Pairwise fun first second => sameIgnoringAsciiCase first.1 second.1 = false
  /-- No name is reserved. -/
  free : ∀ pair ∈ pairs, ∀ word ∈ reservedNames, sameIgnoringAsciiCase pair.1 word = false

/-! ## Names in lower case -/

section Names

variable {pairs flat : List (String × String)} {name : String}

/-- Different names differ in lower case as well. -/
theorem Unambiguous.nodup (unambiguous : Unambiguous pairs) :
    (pairs.map fun pair => lowercase pair.1).Nodup := by
  -- Among ASCII texts both comparisons are the same.
  refine List.pairwise_map.mpr (unambiguous.distinct.imp_of_mem ?_)
  intro first second left right distinct same
  have equal := (sameIgnoringAsciiCase_iff (unambiguous.plain first left).1
    (unambiguous.plain second right).1).mpr same
  rw [distinct] at equal
  cases equal

/-- No name is reserved in lower case. -/
theorem Unambiguous.unreserved (unambiguous : Unambiguous pairs) :
    ∀ pair ∈ pairs, lowercase pair.1 ∉ reservedNames := by
  intro pair member reserved
  have ascii : ∀ word ∈ reservedNames, IsAscii word ∧ lowercase word = word := by decide +kernel
  obtain ⟨plain, settled⟩ := ascii _ reserved
  -- In ASCII both comparisons agree, and one of them excludes the reserved names.
  have equal := (sameIgnoringAsciiCase_iff (unambiguous.plain pair member).1 plain).mpr settled.symm
  rw [unambiguous.free pair member _ reserved] at equal
  cases equal

/-- Where names differ in lower case, the value of a name is that of the pair that has it. -/
theorem firstNamed?_eq_some_iff (distinct : (pairs.map fun pair => lowercase pair.1).Nodup)
    {value : String} :
    firstNamed? pairs name = some value ↔
      ∃ pair ∈ pairs, lowercase pair.1 = name ∧ pair.2 = value := by
  induction pairs with
  | nil => simp [firstNamed?]
  | cons first rest ih =>
    rw [List.map_cons, List.nodup_cons] at distinct
    rw [firstNamed?_cons, List.exists_mem_cons_iff]
    split
    · rename_i named
      -- No other pair has the name.
      have others : ¬∃ pair ∈ rest, lowercase pair.1 = name ∧ pair.2 = value := by
        rintro ⟨pair, member, same, _⟩
        exact distinct.1 (List.mem_map.mpr ⟨pair, member, same.trans named.symm⟩)
      simp [named, others]
    · -- The first pair has another name, so it is left out on both sides.
      rename_i other
      rw [ih distinct.2]
      simp [other]

/-- The order of pairs whose names differ in lower case does not matter. -/
theorem firstNamed?_perm (distinct : (pairs.map fun pair => lowercase pair.1).Nodup)
    (order : flat.Perm pairs) : firstNamed? flat name = firstNamed? pairs name := by
  -- A value is found wherever the pair that has it stands.
  ext value
  rw [firstNamed?_eq_some_iff distinct,
    firstNamed?_eq_some_iff ((order.map _).nodup_iff.mpr distinct)]
  simp only [order.mem_iff]

/-- A flat table finds a variable by its name in lower case. -/
theorem flatLookup_eq_firstNamed? (plain : ∀ pair ∈ flat, IsAscii pair.1)
    (distinct : (flat.map fun pair => lowercase pair.1).Nodup) (ascii : IsAscii name) :
    flatLookup flat name = firstNamed? flat (lowercase name) := by
  unfold flatLookup
  cases exact : flat.lookup name with
  | some source =>
    -- What is found under the name itself is found under its lower case, too.
    have member : (name, source) ∈ flat := by
      obtain ⟨before, after, rfl, _⟩ := List.lookup_eq_some_iff.mp exact
      simp
    exact ((firstNamed?_eq_some_iff distinct).mpr ⟨_, member, rfl, rfl⟩).symm
  | none =>
    -- Otherwise both compare without regard to case, each in its own way.
    have same : ∀ pair ∈ flat,
        sameIgnoringAsciiCase pair.1 name = (lowercase pair.1 == lowercase name) := by
      intro pair member
      rw [Bool.eq_iff_iff, beq_iff_eq]
      exact sameIgnoringAsciiCase_iff (plain pair member) ascii
    simp only [firstNamed?, List.find?_congr same]

end Names

/-! ## One section -/

section Section

variable {title : String} {pairs flat : List (String × String)}

/-- Entries of other names give a name no value. -/
theorem firstNamed?_eq_none {name : String} (absent : ∀ pair ∈ pairs, lowercase pair.1 ≠ name) :
    firstNamed? pairs name = none := by
  rw [firstNamed?, Option.map_eq_none_iff, List.find?_eq_none]
  simpa using absent

/-- A flat table of such variables finds the one of the name, in whatever order they stand. -/
theorem Unambiguous.flatLookup_eq (unambiguous : Unambiguous pairs) (order : flat.Perm pairs)
    {name : String} (ascii : IsAscii name) :
    flatLookup flat name = firstNamed? pairs (lowercase name) := by
  -- The order of the pairs does not matter where names are distinct.
  have plain : ∀ pair ∈ flat, IsAscii pair.1 := fun pair member =>
    (unambiguous.plain pair (order.mem_iff.mp member)).1
  have distinct := (order.map _).nodup_iff.mpr unambiguous.nodup
  rw [flatLookup_eq_firstNamed? plain distinct ascii, firstNamed?_perm unambiguous.nodup order]

/-- Every template that such a table finds is an ASCII text. -/
theorem Unambiguous.plain_template (unambiguous : Unambiguous pairs) (order : flat.Perm pairs)
    {name template : String} (ascii : IsAscii name) (found : flatLookup flat name = some template) :
    IsAscii template := by
  -- What is found is the value of one of the pairs.
  rw [unambiguous.flatLookup_eq order ascii, firstNamed?_eq_some_iff unambiguous.nodup] at found
  obtain ⟨pair, member, _, rfl⟩ := found
  exact (unambiguous.plain pair member).2

/-- The table of a section finds the one of the name as well. -/
theorem Unambiguous.own?_ofEntries (unambiguous : Unambiguous pairs) (name : String) :
    (Table.ofEntries title pairs).own? name = firstNamed? pairs (lowercase name) := by
  rw [(Table.holds_ofEntries title pairs).own, lastNamed?,
    firstNamed?_perm unambiguous.nodup pairs.reverse_perm]
  split
  · -- None of the names is reserved.
    rename_i reserved
    exact (firstNamed?_eq_none fun pair member same =>
      unambiguous.unreserved pair member (same ▸ reserved)).symm
  · rfl

/-- A section that names no parent is a registry of one table. -/
theorem ofSections_singleton (orphan : Registry.declaredParent? pairs = none) :
    Registry.ofSections [(title, pairs)] = .ok (.ofTables [Table.ofEntries title pairs]) := by
  have added : (Registry.insertAll [(title, pairs)]).result .empty =
      (.ok (), .ofTables [Table.ofEntries title pairs]) := rfl
  -- If it is the default section, it is not its own parent.
  have top : (Registry.ofTables [Table.ofEntries title pairs]).intendedParent? ⟨0⟩ (title, pairs) =
      none := by
    by_cases default : title = defaultSection <;>
      simp [Registry.intendedParent?, orphan, Registry.idOf?, Registry.ofTables,
        Registry.placesOf, Entries.lookup_cons, default]
  -- There is one table to add and no parent to set.
  refine Registry.ofSections_eq_ok_iff_populate.mpr ?_
  rw [Registry.populate, Registry.Change.result_bind, added]
  dsimp only
  rw [Registry.linkFrom, Registry.Change.result_bind, Registry.result_link, top]
  rfl

/-- The only table of a registry finds what it defines itself. -/
theorem sourceOf?_singleton (name : String) :
    (Registry.ofTables [Table.ofEntries title pairs]).sourceOf? ⟨0⟩ name =
      (Table.ofEntries title pairs).own? name := by
  -- Its way up ends where it begins.
  have whole : (Registry.ofTables [Table.ofEntries title pairs]).Chain ⟨0⟩
      [(⟨0⟩, Table.ofEntries title pairs)] := .root rfl (Table.ofEntries_parent title pairs)
  rw [Registry.sourceOf?, Registry.inherited?, whole.lineage_eq, List.findSome?_cons,
    List.findSome?_nil]
  split <;> simp [*]

end Section

/-- Where no two names of ASCII variables differ in their case alone and none is reserved, a flat
table and the one section that holds them find the same variables under every ASCII name; and so
every ASCII source is rendered in the same way with either of them, whatever the payload and the
limit, diagnostics included. -/
theorem flat_and_scoped_variables_agree {title : String} {pairs flat : List (String × String)}
    (unambiguous : Unambiguous pairs) (order : flat.Perm pairs) :
    ∃ registry id, Registry.ofSections [(title, pairs)] = .ok registry ∧
      registry.idOf? title = some id ∧
      (∀ name, IsAscii name → flatLookup flat name = registry.sourceOf? id name) ∧
      ∀ engine : Engine, ∀ source payload, IsAscii source →
        engine.tryRender source payload (some (flatLookup flat)) =
          engine.tryRender source payload (some (registry.sourceOf? id)) := by
  -- The name of the parent is reserved, so that no pair has it.
  have orphan : Registry.declaredParent? pairs = none := by
    rw [Registry.declaredParent?_eq]
    exact firstNamed?_eq_none fun pair member named =>
      unambiguous.unreserved pair member (named ▸ by decide)
  have same : ∀ name, IsAscii name → flatLookup flat name =
      (Registry.ofTables [Table.ofEntries title pairs]).sourceOf? ⟨0⟩ name := by
    intro name ascii
    rw [sourceOf?_singleton, unambiguous.own?_ofEntries, unambiguous.flatLookup_eq order ascii]
  refine ⟨_, ⟨0⟩, ofSections_singleton orphan,
    by simp [Registry.idOf?, Registry.ofTables, Registry.placesOf], same, ?_⟩
  intro engine source payload ascii
  -- ASCII sources refer to ASCII names, and the templates of these are ASCII sources again.
  refine renderWithin_congr (fun source ascii name refers => ?_) _ _ _ ascii
  have plain : IsAscii name := fun character inside => ascii character (refers.mem_source inside)
  exact ⟨same name plain, fun template found => unambiguous.plain_template order plain found⟩

/-- Two variables, the first of which refers to the second by another spelling of its name. -/
def greeting : List (String × String) :=
  [("Greeting", "Hello, ${config.WHO}"), ("who", "$data.name")]

/-- Both tables find the first variable, and both lead from it to the second. -/
theorem flat_and_scoped_variables_agree_greeting :
    Unambiguous greeting ∧ greeting.reverse.Perm greeting ∧ IsAscii "GREETING" ∧
      IsAscii "$config.greeting!" ∧
      ∃ registry id, Registry.ofSections [("push", greeting)] = .ok registry ∧
        registry.idOf? "push" = some id ∧
        registry.sourceOf? id "GREETING" = some "Hello, ${config.WHO}" ∧
        (Engine.standard.tryRender "$config.greeting!" (.map [("name", .string "Ada")])
          (some (registry.sourceOf? id))).outcome = .ok (some "Hello, Ada!") := by
  have unambiguous : Unambiguous greeting := ⟨by decide, by decide, by decide⟩
  have order : greeting.reverse.Perm greeting := greeting.reverse_perm
  have name : IsAscii "GREETING" := by decide
  have source : IsAscii "$config.greeting!" := by decide
  -- The map may have the pairs in any order, for example in reverse.
  obtain ⟨registry, id, built, known, found, rendered⟩ :=
    flat_and_scoped_variables_agree unambiguous order
  refine ⟨unambiguous, order, name, source, registry, id, built, known, ?_, ?_⟩
  · rw [← found "GREETING" name]
    decide
  · rw [← rendered Engine.standard "$config.greeting!" _ source]
    decide +kernel

end PayloadTemplate.Variables
