import PayloadTemplate.Settings.Basic
import PayloadTemplate.Toml.Reader

/-! Settings from TOML text. -/

namespace PayloadTemplate.Settings

/-- Looks a field up among the entries of a table: a missing one keeps its default, and one whose
value does not fit makes the settings fail. -/
def fieldOr {α : Type} (default : α) (accept : Toml.Value → Option α)
    (entries : List (String × Toml.Entry)) (name : String) : Option α :=
  match entries.lookup name with
  | none => some default
  | some (.value value) => accept value
  | some _ => none

/-- The truth value that a value is. -/
def boolOf? : Toml.Value → Option Bool
  | .boolean value => some value
  | _ => none

/-- The text that a value is. -/
def textOf? : Toml.Value → Option String
  | .string value => some value
  | _ => none

/-- The depth that a value is: an integer that does not lie below zero. -/
def depthOf? : Toml.Value → Option UInt64
  | .integer value => if 0 ≤ value then some (UInt64.ofNat value.toNat) else none
  | _ => none

/-- The settings that a TOML text describes.  What it leaves out has its default. -/
def ofToml? (text : String) : Option Settings := do
  let table ← Toml.read? text
  let defaults : Settings := {}
  let debug ← fieldOr defaults.debug boolOf? table.entries "debug"
  let logLevel ← fieldOr defaults.logLevel textOf? table.entries "log_level"
  let maxConfigDepth ←
    fieldOr defaults.maxConfigDepth depthOf? table.entries "max_config_depth"
  return { debug, logLevel, maxConfigDepth }

end PayloadTemplate.Settings
