import PayloadTemplate.Journal
import PayloadTemplate.Text.Integer
import PayloadTemplate.Text.Lowercase

/-! Up to which level diagnostics are let through. -/

namespace PayloadTemplate

/-- The place of a level from the least to the most verbose. -/
def Level.verbosity : Level → Nat
  | .error => 1
  | .warn => 2
  | .info => 3
  | .debug => 4
  | .trace => 5

/-- The name of a level. -/
def Level.name : Level → String
  | .error => "error"
  | .warn => "warn"
  | .info => "info"
  | .debug => "debug"
  | .trace => "trace"

/-- The levels from the least to the most verbose. -/
def Level.all : List Level := [.error, .warn, .info, .debug, .trace]

namespace Logging

open Text

/-- The most verbose level that is let through, or nothing at all. -/
abbrev Threshold := Option Level

/-- The name of a threshold. -/
def thresholdName : Threshold → String
  | some level => level.name
  | none => "off"

/-- The threshold that a text names, by number from none to all or by name in any case. -/
def threshold? (text : String) : Option Threshold :=
  match unsigned? text.toList with
  | some 0 => some none
  | some number => (Level.all.find? (·.verbosity == number)).map some
  | none =>
    if sameIgnoringAsciiCase text "off" then some none
    else (Level.all.find? fun level => sameIgnoringAsciiCase text level.name).map some

/-- Whether a threshold lets a level through. -/
def lets (threshold : Threshold) (level : Level) : Bool :=
  match threshold with
  | some most => level.verbosity ≤ most.verbosity
  | none => false

end Logging

end PayloadTemplate
