import PayloadTemplate.Entries
import PayloadTemplate.Toml.Scalar

/-!
Tables under construction.  A table may come up in a header, as part of the way to another table,
or as part of a dotted key, and it depends on that how it may be extended later.
-/

namespace PayloadTemplate.Toml

/-- What a key of a table stands for. -/
inductive Entry where
  /-- A value. -/
  | value (value : Value)
  /-- A table.  It is implicit until a header introduces it, and dotted if a dotted key did. -/
  | table (implicit dotted : Bool) (entries : List (String × Entry))
  /-- An array of tables, given by the entries of the last. -/
  | tables (last : List (String × Entry))

/-- A table. -/
structure Table where
  /-- Whether no header has introduced it. -/
  implicit : Bool
  /-- Whether a dotted key has introduced it. -/
  dotted : Bool
  /-- Its entries. -/
  entries : List (String × Entry)

namespace Table

/-- A table that a header introduces. -/
def fresh : Table := ⟨false, false, []⟩

/-- A table as an entry of another. -/
def toEntry (table : Table) : Entry :=
  .table table.implicit table.dotted table.entries

/-- The table with a key bound to an entry. -/
def put (table : Table) (key : String) (entry : Entry) : Table :=
  { table with entries := Entries.put key entry table.entries }

/-- The table without a key. -/
def without (table : Table) (key : String) : Table :=
  { table with entries := table.entries.filter (·.1 != key) }

/-- Changes the table at the end of a path.  Tables on the way come into being as needed; of an
array of tables the last is meant.  A dotted key does not lead into a table that a header
introduced. -/
def change (dotted : Bool) (edit : Table → Option Table) :
    List String → Table → Option Table
  | [], table => edit table
  | key :: path, table => do
    match table.entries.lookup key with
    | none =>
      let inner ← change dotted edit path ⟨true, dotted, []⟩
      some (table.put key inner.toEntry)
    | some (.value _) => none
    | some (.tables last) =>
      let inner ← change dotted edit path ⟨false, false, last⟩
      some (table.put key (.tables inner.entries))
    | some (.table implicit isDotted entries) =>
      if dotted && !implicit then
        none
      else
        let inner ← change dotted edit path ⟨implicit, isDotted, entries⟩
        some (table.put key inner.toEntry)

/-- Binds a key to a value.  The key is new, and a dotted key leads to tables of dotted keys. -/
def bind (table : Table) (key : Key) (value : Value) : Option Table :=
  table.change true
    (fun inner =>
      if inner.dotted == key.path.isEmpty then none
      else if (inner.entries.lookup key.name).isSome then none
      else some (inner.put key.name (.value value)))
    key.path

end Table

/-- A document under construction: the tables that are complete, and the one whose lines are being
read. -/
structure Document where
  /-- The complete tables. -/
  root : Table
  /-- The table being read. -/
  current : Table
  /-- Where it belongs; nowhere means at the root. -/
  place : Option Key
  /-- Whether it is a member of an array of tables. -/
  inArray : Bool

namespace Document

/-- The document before its first line. -/
def start : Document := ⟨.fresh, .fresh, none, false⟩

/-- Puts the table that was being read in its place. -/
def complete (document : Document) : Option Table :=
  match document.place with
  | none => some document.current
  | some key =>
    document.root.change false
      (fun parent =>
        match document.inArray, parent.entries.lookup key.name with
        | true, none | true, some (.tables _) =>
          some (parent.put key.name (.tables document.current.entries))
        | false, none | false, some (.table true _ _) =>
          some (parent.put key.name document.current.toEntry)
        | _, _ => none)
      key.path

/-- Begins the table of a header.  A table that was only part of a way so far is continued. -/
def openTable (document : Document) (key : Key) : Option Document := do
  let root ← document.complete
  -- The parent is looked up first, and what it holds under the name tells how to go on.
  let parent ← findParent root key
  match parent.entries.lookup key.name with
  | none => some ⟨← root.change false some key.path, .fresh, some key, false⟩
  | some (.table true false entries) =>
    let root ← root.change false (fun parent => some (parent.without key.name)) key.path
    some ⟨root, ⟨false, false, entries⟩, some key, false⟩
  | some _ => none
where
  /-- The table that a key's path leads to. -/
  findParent (root : Table) (key : Key) : Option Table :=
    descend key.path root
  /-- Follows a path from table to table; where there is none, an empty one is meant. -/
  descend : List String → Table → Option Table
    | [], table => some table
    | name :: path, table =>
      match table.entries.lookup name with
      | none => descend path ⟨true, false, []⟩
      | some (.value _) => none
      | some (.tables last) => descend path ⟨false, false, last⟩
      | some (.table implicit dotted entries) => descend path ⟨implicit, dotted, entries⟩

/-- Begins a further member of the array of tables of a header. -/
def openMember (document : Document) (key : Key) : Option Document := do
  let root ← document.complete
  let root ← root.change false
    (fun parent =>
      match parent.entries.lookup key.name with
      | none => some (parent.put key.name (.tables []))
      | some (.tables _) => some parent
      | some _ => none)
    key.path
  some ⟨root, .fresh, some key, true⟩

/-- Binds a key in the table being read. -/
def bind (document : Document) (key : Key) (value : Value) : Option Document := do
  let current ← document.current.bind key value
  some { document with current }

end Document

end PayloadTemplate.Toml
