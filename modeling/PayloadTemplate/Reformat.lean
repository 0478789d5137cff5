import PayloadTemplate.Failure
import PayloadTemplate.Json.Controls
import PayloadTemplate.Json.Reader
import PayloadTemplate.Render.Engine

/-!
Turning payloads into new documents: single expressions, maps of expressions, template files, and
templates whose output is read as JSON.
-/

namespace PayloadTemplate

open Render

/-- Why a payload cannot be turned into a new document. -/
inductive ReformatError where
  /-- The template is empty or cannot be rendered. -/
  | noOutput
  /-- The rendered text is no JSON. -/
  | invalidOutput (text : String) (error : Json.Error)
  /-- The template file cannot be read. -/
  | file (error : FileError)
  deriving DecidableEq, Repr

/-- The error as messages report it. -/
def ReformatError.message : ReformatError → String
  | .noOutput => "template produced no output"
  | .invalidOutput _ error => s!"unable to deserialize evaluated template: {error.message}"
  | .file error => s!"IO error: {error.message}"

/-- The rendered text, if there is any. -/
def ReformatError.text? : ReformatError → Option String
  | .invalidOutput text _ => some text
  | _ => none

namespace Engine

/-- Renders expressions under keys.  A repeated key keeps its first place and its last text. -/
def renderAll (engine : Engine) (expressions : List (String × String)) (payload : Value)
    (definitions : Option Lookup) : Logged (List (String × Option String)) := do
  let results ← expressions.mapM fun expression => do
    return (expression.1, ← engine.render expression.2 payload definitions)
  return Entries.ofBindings results

/-- Renders a template file. -/
def renderFile (engine : Engine) (files : Files) (path : String) (payload : Value)
    (definitions : Option Lookup) : Logged (Except Failure (Option String)) :=
  match files.readText path with
  | .error error => return .error (.file error)
  | .ok source => do
    Logged.log (.evaluatingFile path)
    return .ok (← engine.render source payload definitions)

/-- The value that a rendered text stands for. -/
def readOutput (text : String) : Except ReformatError Value :=
  (Json.read (Json.escapeControls text)).mapError (.invalidOutput text)

/-- Renders a template and reads its output as JSON. -/
def reformat (engine : Engine) (template : String) (payload : Value)
    (definitions : Option Lookup) : Logged (Except ReformatError Value) := do
  match ← engine.render template payload definitions with
  | none => return .error .noOutput
  | some text => return readOutput text

/-- Renders a template file and reads its output as JSON. -/
def reformatFile (engine : Engine) (files : Files) (path : String) (payload : Value)
    (definitions : Option Lookup) : Logged (Except ReformatError Value) :=
  match files.readText path with
  | .error error => return .error (.file error)
  | .ok template => engine.reformat template payload definitions

end Engine

end PayloadTemplate
