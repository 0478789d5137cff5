import PayloadTemplate.Entries
import PayloadTemplate.Variables.Table

/-!
Tables of variables that inherit from each other.  What a table does not define is looked up in its
parent; no table inherits from itself, not even by way of others.  The tables are found by their
names through an index that is written beside them.
-/

namespace PayloadTemplate.Variables

open Text

/-- Why tables cannot be put together. -/
inductive TableError where
  /-- Two sections have one name. -/
  | duplicateSection (name : String)
  /-- A table would inherit from itself. -/
  | inheritanceCycle (child parent : String)
  /-- A fault that the caller describes. -/
  | reported (detail : String)
  deriving DecidableEq, Repr

/-- The fault in words. -/
def TableError.detail : TableError → String
  | .duplicateSection name => s!"section '{name}' is defined more than once"
  | .inheritanceCycle child parent =>
    s!"making '{parent}' the parent of '{child}' would create an inheritance cycle"
  | .reported detail => detail

/-- The section that others inherit from when they name no parent. -/
def defaultSection : String := "default"

/-- A sequence of tables and an index of their names. -/
structure Registry where
  /-- The tables in the order in which they were added. -/
  tables : List Table
  /-- The places at which tables are to be found, by their names. -/
  names : List (String × TableId)
  deriving DecidableEq, Repr

namespace Registry

/-- No tables. -/
def empty : Registry := ⟨[], []⟩

/-- The number of tables. -/
def size (registry : Registry) : Nat :=
  registry.tables.length

/-- The table at a place. -/
def get? (registry : Registry) (id : TableId) : Option Table :=
  registry.tables[id.position]?

/-- The place of the section of a name, as the index has it. -/
def idOf? (registry : Registry) (name : String) : Option TableId :=
  registry.names.lookup name

/-- The place of the section for an event, or of the default section if the event has none. -/
def tableFor? (registry : Registry) (event : String) : Option TableId :=
  match registry.idOf? event with
  | some id => some id
  | none => registry.idOf? defaultSection

/-- The first so many tables on the way from a table up through its parents, itself included. -/
def ancestors (registry : Registry) : Nat → Option TableId → List (TableId × Table)
  | 0, _ => []
  | _, none => []
  | steps + 1, some id =>
    match registry.get? id with
    | some table => (id, table) :: ancestors registry steps table.parent
    | none => []

/-- A table and all that it inherits from, nearest first.  Without cycles, no way up is longer than
the number of tables. -/
def lineage (registry : Registry) (id : TableId) : List (TableId × Table) :=
  registry.ancestors registry.size (some id)

/-- The name of the table at a place. -/
def nameOf (registry : Registry) (id : TableId) : String :=
  ((registry.get? id).map Table.name).getD ""

/-- The nearest answer to a question among a table and all that it inherits from. -/
def inherited? {α : Type} (registry : Registry) (id : TableId) (pick : Table → Option α) :
    Option α :=
  (registry.lineage id).findSome? fun entry => pick entry.2

/-- The template of a variable, inherited if need be. -/
def sourceOf? (registry : Registry) (id : TableId) (name : String) : Option String :=
  registry.inherited? id (·.own? name)

/-- The destination of a table, inherited if need be. -/
def destination? (registry : Registry) (id : TableId) : Option String :=
  registry.inherited? id Table.destination

/-- The template file of a table, inherited if need be. -/
def template? (registry : Registry) (id : TableId) : Option String :=
  registry.inherited? id Table.template

/-- A section: its name and its entries. -/
abbrev Section := String × List (String × String)

/-- The parent that a section names: in the first of its entries that does so. -/
def declaredParent? (entries : List (String × String)) : Option String :=
  (entries.find? fun entry => sameIgnoringAsciiCase entry.1 "parent").map (·.2)

/-- The place of a section's parent: the section that it names, if there is one, or else the default
section, if that is another one. -/
def intendedParent? (registry : Registry) (id : TableId) (part : Section) : Option TableId :=
  match declaredParent? part.2 >>= registry.idOf? with
  | some parent => some parent
  | none => (registry.idOf? defaultSection).filter (· != id)

/-! ## Changes -/

/-- A computation that changes a registry.  What it has changed stays so even if it fails. -/
abbrev Change := ExceptT TableError (StateM Registry)

/-- What a change of a registry gives, and the registry that it leaves. -/
def Change.result {α : Type} (change : Change α) (registry : Registry) :
    Except TableError α × Registry :=
  (change.run.run registry).run

/-- Adds a table, whose name must be new. -/
def insert (table : Table) : Change TableId := do
  let registry ← get
  if (registry.idOf? table.name).isSome then
    throw (.duplicateSection table.name)
  else
    let id : TableId := ⟨registry.size⟩
    -- The table is in the index before it is there itself.
    modify fun registry => { registry with names := Entries.put table.name id registry.names }
    modify fun registry => { registry with tables := registry.tables ++ [table] }
    return id

/-- Lets a table inherit from another, unless that one inherits from it. -/
def setParent (child parent : TableId) : Change Unit := do
  let registry ← get
  if (registry.lineage parent).any (·.1 == child) then
    throw (.inheritanceCycle (registry.nameOf child) (registry.nameOf parent))
  else
    modify fun registry =>
      { registry with
        tables := registry.tables.modify child.position fun table =>
          { table with parent := some parent } }

/-- Adds the tables of sections. -/
def insertAll (sections : List Section) : Change Unit :=
  sections.forM fun part => discard (insert (.ofEntries part.1 part.2))

/-- Links the section at a place to its parent. -/
def link (id : TableId) (part : Section) : Change Unit := do
  match (← get).intendedParent? id part with
  | some parent => setParent id parent
  | none => return ()

/-- Links sections to their parents, given the place of the first of them. -/
def linkFrom (position : Nat) : List Section → Change Unit
  | [] => return ()
  | part :: rest => do
    link ⟨position⟩ part
    linkFrom (position + 1) rest

/-- Adds the tables of sections and links each to its parent. -/
def populate (sections : List Section) : Change Unit := do
  insertAll sections
  linkFrom 0 sections

/-- The registry of sections, each linked to its parent. -/
def ofSections (sections : List Section) : Except TableError Registry :=
  let (outcome, registry) := (populate sections).result empty
  outcome.map fun _ => registry

end Registry

end PayloadTemplate.Variables
