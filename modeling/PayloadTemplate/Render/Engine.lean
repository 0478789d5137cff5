import PayloadTemplate.Render.Resolver
import PayloadTemplate.Render.Walk

/-!
Rendering whole templates.  Variables are templates of their own, rendered where they are referred
to; how deep they may refer to each other is limited.
-/

namespace PayloadTemplate.Render

open Loop Template

/-- Accepts the texts of a template's items: outside all loops there is exactly one. -/
def singleText : List String → Rendering (Option String)
  | [text] => return some text
  | texts => throw (.branching texts.length)

/-- Renders a source at some depth of variables.  The first number is the limit that an error
reports, the second how many further depths, this one included, may be entered. -/
def renderWithin (limit : Nat) (payload : Value) (definitions : Option Lookup) :
    (allowance depth : Nat) → String → Rendering (Option String)
  | 0, _, source => if source.isEmpty then return none else throw (.recursionLimit limit)
  | allowance + 1, depth, source =>
    if source.isEmpty then
      return none
    else
      Rendering.within depth do
        let tokens ← tokenize source
        let items ← build tokens
        let nested := renderWithin limit payload definitions allowance (depth + 1)
        let texts ← Walk.start (renderItems (resolve ⟨payload, definitions, depth⟩ nested) items)
        singleText texts

end PayloadTemplate.Render

namespace PayloadTemplate

open Render Loop

/-- A renderer of templates. -/
structure Engine where
  /-- How deep variables may refer to further variables. -/
  maxDepth : Nat
  deriving DecidableEq, Repr

/-- The depth that suffices for most uses. -/
def defaultMaxDepth : Nat := 32

namespace Engine

/-- An engine with the default limit. -/
def standard : Engine := ⟨defaultMaxDepth⟩

/-- Renders the template of a variable that a scope refers to. -/
def renderNested (engine : Engine) (scope : Scope) : NestedRender :=
  renderWithin engine.maxDepth scope.payload scope.definitions (engine.maxDepth - scope.depth)
    scope.nested.depth

/-- Renders a source; an empty one has no result. -/
def tryRender (engine : Engine) (source : String) (payload : Value) (definitions : Option Lookup) :
    Rendering (Option String) :=
  renderWithin engine.maxDepth payload definitions (engine.maxDepth + 1) 0 source

/-- Renders a source; an empty one and one that fails have no result. -/
def render (engine : Engine) (source : String) (payload : Value) (definitions : Option Lookup) :
    Logged (Option String) := do
  match ← (engine.tryRender source payload definitions).run with
  | .ok text => return text
  | .error error =>
    Logged.log (.renderFailed error)
    return none

end Engine

/-- Renders a source with the default limit. -/
def render (source : String) (payload : Value) (definitions : Option Lookup) :
    Logged (Option String) :=
  Engine.standard.render source payload definitions

end PayloadTemplate
