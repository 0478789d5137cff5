import PayloadTemplate.Template.Lexer
import PayloadTemplate.Template.Parser
import PayloadTemplate.Value

/-! Why a template cannot be rendered. -/

namespace PayloadTemplate

/-- Why the loops of a template cannot be entered, left or enumerated. -/
inductive LoopError where
  /-- A loop of that name is active. -/
  | alreadyActive (name : String)
  /-- The active loops and the new one have too many combinations. -/
  | tooManyCombinations (name : String)
  /-- The loop is active, but another one is inside it. -/
  | notInnermost (name : String)
  /-- No loop of that name is active. -/
  | notActive (name : String)
  /-- There are not that many combinations. -/
  | noSuchCombination (index count : Nat)
  /-- A fault that the caller describes. -/
  | reported (detail : String)
  deriving DecidableEq, Repr

/-- The fault in words. -/
def LoopError.detail : LoopError → String
  | .alreadyActive name => s!"cannot add index symbol \"{name}\", it already exists"
  | .tooManyCombinations name =>
    s!"cannot add index symbol \"{name}\", too many for-loop combinations"
  | .notInnermost name => s!"cannot remove index symbol \"{name}\", it is not the innermost loop"
  | .notActive name => s!"cannot remove index symbol \"{name}\", it doesn't exist"
  | .noSuchCombination index count =>
    s!"invalid for-loop combination index: {index} (of {count})"
  | .reported detail => detail

/-- Why a path has no value, not even an empty one. -/
inductive ResolutionError where
  /-- The path begins with a word that has no values. -/
  | unsupportedRoot (path : String)
  /-- The path names a variable, and there are no variables. -/
  | noVariables
  /-- The path names a loop, and no loop is active. -/
  | outsideLoops
  /-- The path leads to a value that no loop can range over. -/
  | notIterable (path : String) (kind : Kind)
  /-- A fault that the caller describes. -/
  | reported (detail : String)
  deriving DecidableEq, Repr

/-- The fault in words. -/
def ResolutionError.detail : ResolutionError → String
  | .unsupportedRoot path => s!"symbol \"{path}\" is neither a data, config, nor key reference"
  | .noVariables => "this parsing context has no event configuration"
  | .outsideLoops => "cannot reference a for-loop key in this context"
  | .notIterable path kind =>
    s!"symbol \"{path}\" is neither a list nor a dictionary (found {kind.name})"
  | .reported detail => detail

/-- Why a template cannot be rendered. -/
inductive RenderError where
  /-- Its source holds a character that no rule allows. -/
  | lexical (fault : Template.IllegalCharacter)
  /-- Its tokens do not fit together. -/
  | parse (fault : Template.ParseError)
  /-- A path in it cannot be resolved. -/
  | resolution (fault : ResolutionError)
  /-- Its loops cannot be run. -/
  | loop (fault : LoopError)
  /-- It has another number of results than one. -/
  | branching (results : Nat)
  /-- Variables refer to variables beyond the given depth. -/
  | recursionLimit (limit : Nat)
  deriving DecidableEq, Repr

/-- The error as messages report it. -/
def RenderError.message : RenderError → String
  | .lexical fault => fault.message
  | .parse fault => fault.message
  | .resolution fault => "Resolution error: " ++ fault.detail
  | .loop fault => "Loop error: " ++ fault.detail
  | .branching results => s!"For-loop branching error: top level produced {results} values"
  | .recursionLimit limit =>
    s!"Config variable recursion exceeded the maximum depth of {limit}"

/-- Whether an error inside a variable's template ends the whole render.  Any other error only
leaves the variable without a value. -/
def RenderError.isFatal : RenderError → Bool
  | .recursionLimit _ => true
  | _ => false

end PayloadTemplate
