import PayloadTemplate.Json.Writer
import PayloadTemplate.Render.Engine

/-! The settings of the library. -/

namespace PayloadTemplate

/-- What can be set; all of it has defaults. -/
structure Settings where
  /-- Whether diagnostics are printed for people rather than for programs. -/
  debug : Bool := false
  /-- Which diagnostics are printed. -/
  logLevel : String := "info"
  /-- How deep variables may refer to further variables. -/
  maxConfigDepth : UInt64 := 32
  deriving DecidableEq, Repr

namespace Settings

/-- The settings as a value, whose keys are the names of the fields. -/
def toMap (settings : Settings) : Value :=
  .map [("debug", toValue settings.debug), ("log_level", toValue settings.logLevel),
    ("max_config_depth", toValue settings.maxConfigDepth.toNat)]

/-- The settings as JSON text. -/
def write (settings : Settings) : String :=
  Json.write .compact settings.toMap

end Settings

/-- The engine that settings ask for. -/
def Engine.ofSettings (settings : Settings) : Engine :=
  ⟨settings.maxConfigDepth.toNat⟩

end PayloadTemplate
