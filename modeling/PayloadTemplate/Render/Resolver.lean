import PayloadTemplate.Journal
import PayloadTemplate.Render.Path

/-!
The values of paths.  A path into the payload that leads nowhere and a variable or loop that is not
there read as empty; what no render could mean is an error.
-/

namespace PayloadTemplate.Render

open Loop

/-- Finds the template of a variable by its name. -/
abbrev Lookup := String → Option String

/-- What a render reads. -/
structure Scope where
  /-- The payload. -/
  payload : Value
  /-- The variables, if there are any. -/
  definitions : Option Lookup
  /-- How many variables are being rendered around this one. -/
  depth : Nat

/-- The scope of a variable's template. -/
def Scope.nested (scope : Scope) : Scope :=
  { scope with depth := scope.depth + 1 }

/-- Renders the template of a variable. -/
abbrev NestedRender := String → Rendering (Option String)

/-- The value of a path into the payload. -/
def resolveData (scope : Scope) (path : String) (bindings : Bindings) : Rendering Value :=
  match follow bindings (pathSegments path) scope.payload with
  | some value => return value
  | none => do
    Rendering.log (.unresolvablePath path)
    return .string ""

/-- The value of a variable: its rendered template, or null when that is empty or fails. -/
def renderVariable (scope : Scope) (nested : NestedRender) (source : String) :
    Rendering Value := do
  match ← ExceptT.lift (nested source).run with
  | .ok (some text) => return .string text
  | .ok none => return .null
  | .error error =>
    if error.isFatal then
      throw error
    else
      Rendering.log (.variableFailed scope.nested.depth error)
      return .null

/-- The value of a path to a variable. -/
def resolveVariable (scope : Scope) (nested : NestedRender) (path : String) : Rendering Value :=
  match scope.definitions with
  | none => throw (.resolution .noVariables)
  | some lookup =>
    match lookup (pathName path) with
    | some source => renderVariable scope nested source
    | none => do
      Rendering.log (.variableNotFound (pathName path))
      return .null

/-- The value of a path to a loop's current key. -/
def resolveKey (path : String) (bindings : Bindings) : Rendering Value :=
  if bindings.isEmpty then
    throw (.resolution .outsideLoops)
  else
    match bindings.lookup (pathName path) with
    | some key => return key.toValue
    | none => return .null

/-- The value of a path, according to its first segment. -/
def resolve (scope : Scope) (nested : NestedRender) (path : String) (bindings : Bindings) :
    Rendering Value :=
  if pathRoot path = "data" then resolveData scope path bindings
  else if pathRoot path = "config" then resolveVariable scope nested path
  else if pathRoot path = "key" then resolveKey path bindings
  else throw (.resolution (.unsupportedRoot path))

/-- The text of a path's value, as a value. -/
def resolveText (scope : Scope) (nested : NestedRender) (path : String) (bindings : Bindings) :
    Rendering Value := do
  let value ← resolve scope nested path bindings
  return .string value.text

end PayloadTemplate.Render
