import PayloadTemplate.Logging.Filter
import PayloadTemplate.Settings.Basic

/-! How diagnostics are printed, as the settings ask for it. -/

namespace PayloadTemplate.Logging

open Text

/-- The targets of this library's own diagnostics. -/
def ownTargets : List String := ["hookhub", "hookhub_core", "hookhub_template"]

/-- The level of all other targets when the settings name a single level. -/
def otherLevel : String := "warn"

/-- The filter that a log level stands for.  A single level is meant for this library's own targets;
what holds an equals sign or a comma is a filter already. -/
def filterFor (logLevel : String) : String :=
  let level := trimmed logLevel
  if level.toList.any fun character => character == '=' || character == ',' then
    level
  else
    let level := if level.isEmpty then "info" else level
    ",".intercalate (otherLevel :: ownTargets.map fun target => s!"{target}={level}")

/-- How a diagnostic is printed. -/
inductive Format where
  /-- For programs. -/
  | json
  /-- For people. -/
  | pretty
  deriving DecidableEq, Repr

/-- The name of a format. -/
def Format.name : Format → String
  | .json => "json"
  | .pretty => "pretty"

/-- A printer of diagnostics. -/
structure Printer where
  /-- Which diagnostics are printed. -/
  directives : List Directive
  /-- How they are printed. -/
  format : Format
  deriving DecidableEq, Repr

/-- The printer that settings ask for.  A malformed filter gives way to the default level. -/
def Printer.ofSettings (settings : Settings) : Printer :=
  let directives :=
    match filter? (filterFor settings.logLevel) with
    | some directives => directives
    | none => (filter? (filterFor "info")).getD []
  ⟨directives, if settings.debug then .pretty else .json⟩

/-- The printer of a process, if there is one. -/
structure Output where
  /-- The printer. -/
  printer : Option Printer
  deriving DecidableEq, Repr

namespace Output

/-- Before any printer has been installed. -/
def silent : Output := ⟨none⟩

/-- Installs the printer that settings ask for, unless there is one already. -/
def install (output : Output) (settings : Settings) : Output :=
  match output.printer with
  | some _ => output
  | none => ⟨some (.ofSettings settings)⟩

/-- The most verbose level that is printed for a subject. -/
def threshold (output : Output) (subject : Subject) : Threshold :=
  match output.printer with
  | some printer => thresholdFor printer.directives subject
  | none => none

/-- The most verbose level that is printed for a target. -/
def targetThreshold (output : Output) (target : String) : Threshold :=
  output.threshold ⟨target, none⟩

/-- How a diagnostic with some fields is printed, if it is. -/
def format? (output : Output) (target : String) (level : Level) (fields : List String) :
    Option Format :=
  match output.printer with
  | some printer =>
    if lets (output.threshold ⟨target, some fields⟩) level then some printer.format else none
  | none => none

end Output

end PayloadTemplate.Logging
