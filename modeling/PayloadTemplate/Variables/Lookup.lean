import PayloadTemplate.Text.Lowercase

/-! Variables in one flat table. -/

namespace PayloadTemplate.Variables

open Text

/-- The template of a variable in a flat table: under exactly that name, or else under the first
name that differs from it only in the case of ASCII letters. -/
def flatLookup (table : List (String × String)) (name : String) : Option String :=
  match table.lookup name with
  | some source => some source
  | none => (table.find? fun entry => sameIgnoringAsciiCase entry.1 name).map (·.2)

end PayloadTemplate.Variables
