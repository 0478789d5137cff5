import PayloadTemplate.Error
import PayloadTemplate.Files
import PayloadTemplate.Json.Fault
import PayloadTemplate.Variables.Registry

/-! Everything that can go wrong in this library, under one type. -/

namespace PayloadTemplate

/-- The formats of configuration files. -/
inductive ConfigurationFormat where
  /-- Tables of keys and values, line by line. -/
  | toml
  /-- One object. -/
  | json
  deriving DecidableEq, Repr

/-- The name of a format. -/
def ConfigurationFormat.name : ConfigurationFormat → String
  | .toml => "TOML"
  | .json => "JSON"

/-- Why settings cannot be loaded. -/
inductive ConfigurationError where
  /-- The file cannot be read. -/
  | unreadable (format : ConfigurationFormat) (path : String) (error : FileError)
  /-- A TOML text is malformed or does not describe settings. -/
  | invalidToml
  /-- A JSON text is malformed or does not describe settings. -/
  | invalidJson (error : Json.Error)
  /-- A fault that the caller describes. -/
  | reported (detail : String)
  deriving DecidableEq, Repr

/-- The fault in words. -/
def ConfigurationError.detail : ConfigurationError → String
  | .unreadable format path error =>
    s!"Failed to read {format.name} file '{path}': {error.message}"
  | .invalidToml => "Failed to parse TOML"
  | .invalidJson error => s!"Failed to parse JSON: {error.message}"
  | .reported detail => detail

/-- A failure of any part of the library. -/
inductive Failure where
  /-- Settings cannot be loaded. -/
  | configuration (error : ConfigurationError)
  /-- Tables of variables cannot be put together. -/
  | tables (error : Variables.TableError)
  /-- A template cannot be rendered. -/
  | render (error : RenderError)
  /-- A value cannot be written or read. -/
  | serialization (detail : String)
  /-- A file cannot be read. -/
  | file (error : FileError)
  deriving DecidableEq, Repr

/-- The failure as messages report it. -/
def Failure.message : Failure → String
  | .configuration error => "Configuration error: " ++ error.detail
  | .tables error => "Variable table error: " ++ error.detail
  | .render error => error.message
  | .serialization detail => "Serialization error: " ++ detail
  | .file error => "IO error: " ++ error.message

end PayloadTemplate
