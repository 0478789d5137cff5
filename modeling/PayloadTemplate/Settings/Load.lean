import PayloadTemplate.Failure
import PayloadTemplate.Settings.Json
import PayloadTemplate.Settings.Toml
import PayloadTemplate.Text.Blank
import PayloadTemplate.Text.Integer
import PayloadTemplate.Word

/-!
Loading settings.  A text or file overrides the defaults, and the environment overrides both.
-/

namespace PayloadTemplate.Settings

open Text

/-- The variables of the environment. -/
abbrev Environment := List (String × String)

/-- The settings that a text of some format describes. -/
def ofText (format : ConfigurationFormat) (text : String) : Except Failure Settings :=
  match format with
  | .toml =>
    match ofToml? text with
    | some settings => .ok settings
    | none => .error (.configuration .invalidToml)
  | .json => (ofJson text).mapError fun error => .configuration (.invalidJson error)

/-- The settings that a file of some format describes. -/
def ofFile (format : ConfigurationFormat) (files : Files) (path : String) :
    Except Failure Settings :=
  match files.readText path with
  | .ok text => ofText format text
  | .error error => .error (.configuration (.unreadable format path error))

/-- Words that switch something on, in upper or lower case. -/
def isAffirmative (text : String) : Bool :=
  ["true", "1", "yes"].contains (lowercase text)

/-- The depth that a text asks for: a positive number of 64 bits, with blanks around it or not. -/
def depthFrom? (text : String) : Option UInt64 :=
  match unsigned? (trimmedChars text.toList) with
  | some depth => if 0 < depth && fitsWord depth then some (UInt64.ofNat depth) else none
  | none => none

/-- Takes the depth from the environment, unless that asks for an impossible one. -/
def overrideDepth (environment : Environment) (settings : Settings) : Logged Settings :=
  match environment.lookup "HOOKHUB_MAX_CONFIG_DEPTH" with
  | none => return settings
  | some text =>
    match depthFrom? text with
    | some maxConfigDepth => return { settings with maxConfigDepth }
    | none => do
      Logged.log (.ignoredDepth text)
      return settings

/-- The settings with what the environment says in place of their own. -/
def override (environment : Environment) (settings : Settings) : Logged Settings :=
  let debug := ((environment.lookup "HOOKHUB_DEBUG").map isAffirmative).getD settings.debug
  let logLevel := (environment.lookup "HOOKHUB_LOG_LEVEL").getD settings.logLevel
  overrideDepth environment { settings with debug, logLevel }

/-- The settings that the environment describes. -/
def ofEnvironment (environment : Environment) : Logged Settings :=
  override environment {}

/-- Loaded settings with what the environment says in place of their own. -/
def overrideLoaded (environment : Environment) (loaded : Except Failure Settings) :
    Logged (Except Failure Settings) :=
  match loaded with
  | .ok settings => .ok <$> override environment settings
  | .error failure => return .error failure

end PayloadTemplate.Settings
