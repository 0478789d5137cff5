import PayloadTemplate.Entries
import PayloadTemplate.Text.Lowercase

/-! Tables of variables.  Names of variables are the same in upper and lower case. -/

namespace PayloadTemplate.Variables

open Text

/-- Names that configure a table and never name a variable. -/
def reservedNames : List String := ["destination", "template", "parent"]

/-- A table's place in its registry. -/
structure TableId where
  /-- The number of tables before it. -/
  position : Nat
  deriving DecidableEq, Repr

/-- One section of variables. -/
structure Table where
  /-- The name of the section. -/
  name : String
  /-- The templates of the variables, by lower-case name. -/
  definitions : List (String × String) := []
  /-- Where output goes, if the section says so. -/
  destination : Option String := none
  /-- The template file, if the section names one. -/
  template : Option String := none
  /-- The table that this one inherits from. -/
  parent : Option TableId := none
  deriving DecidableEq, Repr

/-- A property that is given as an empty text is absent. -/
def property (value : String) : Option String :=
  if value = "" then none else some value

/-- Adds an entry of a section.  Reserved names set the properties of the table; its parent is for
the registry to find. -/
def Table.add (table : Table) (entry : String × String) : Table :=
  let name := lowercase entry.1
  if name = "destination" then { table with destination := property entry.2 }
  else if name = "template" then { table with template := property entry.2 }
  else if name = "parent" then table
  else { table with definitions := Entries.put name entry.2 table.definitions }

/-- The table of a section with the given entries. -/
def Table.ofEntries (name : String) (entries : List (String × String)) : Table :=
  entries.foldl Table.add { name }

/-- The template of a variable that the table itself defines. -/
def Table.own? (table : Table) (name : String) : Option String :=
  table.definitions.lookup (lowercase name)

end PayloadTemplate.Variables
