import PayloadTemplate.Error

/-! The diagnostics that a computation leaves behind, in the order in which they arise. -/

namespace PayloadTemplate

/-- How important a diagnostic is. -/
inductive Level where
  /-- A failure. -/
  | error
  /-- Something that is probably wrong. -/
  | warn
  /-- Something worth knowing. -/
  | info
  /-- A step that helps to find a fault. -/
  | debug
  /-- A step of little interest. -/
  | trace
  deriving DecidableEq, Repr

/-- A remark on a computation. -/
inductive Diagnostic where
  /-- A source has been split into tokens. -/
  | tokenized (count : Nat)
  /-- Tokens have been built into items. -/
  | parsed (items : Nat)
  /-- A loop begins. -/
  | enteringLoop (index : String) (size : Nat)
  /-- A loop ends. -/
  | leavingLoop (index : String)
  /-- A path leads nowhere in the payload. -/
  | unresolvablePath (path : String)
  /-- A variable is not defined. -/
  | variableNotFound (name : String)
  /-- The template of a variable cannot be rendered. -/
  | variableFailed (depth : Nat) (error : RenderError)
  /-- A template cannot be rendered. -/
  | renderFailed (error : RenderError)
  /-- A template file has been read. -/
  | evaluatingFile (path : String)
  /-- The environment asks for an impossible depth of variables. -/
  | ignoredDepth (value : String)
  deriving DecidableEq, Repr

/-- The importance of a diagnostic. -/
def Diagnostic.level : Diagnostic → Level
  | .tokenized _ => .trace
  | .variableFailed _ _ | .ignoredDepth _ => .warn
  | .renderFailed _ => .error
  | _ => .debug

/-- What a diagnostic says. -/
def Diagnostic.message : Diagnostic → String
  | .tokenized _ => "tokenized template"
  | .parsed _ => "parsed template"
  | .enteringLoop _ _ => "entering loop"
  | .leavingLoop _ => "leaving loop"
  | .unresolvablePath _ => "unresolvable data path"
  | .variableNotFound _ => "config variable not found"
  | .variableFailed _ _ => "config variable failed to render"
  | .renderFailed _ => "failed to parse input"
  | .evaluatingFile _ => "evaluating template file"
  | .ignoredDepth _ => "ignoring invalid HOOKHUB_MAX_CONFIG_DEPTH"

/-- The named details of a diagnostic. -/
def Diagnostic.fields : Diagnostic → List (String × String)
  | .tokenized count => [("count", toString count)]
  | .parsed items => [("items", toString items)]
  | .enteringLoop index size => [("index", index), ("size", toString size)]
  | .leavingLoop index => [("index", index)]
  | .unresolvablePath path => [("path", path)]
  | .variableNotFound name => [("name", name)]
  | .variableFailed depth error => [("depth", toString depth), ("error", error.message)]
  | .renderFailed error => [("error", error.message)]
  | .evaluatingFile path => [("path", path)]
  | .ignoredDepth value => [("value", value)]

/-- A diagnostic with the renders it arose in, outermost first, each given by its depth. -/
structure Entry where
  /-- The depths of the renders. -/
  renders : List Nat
  /-- The diagnostic. -/
  diagnostic : Diagnostic
  deriving DecidableEq, Repr

/-- A result together with the diagnostics on the way to it. -/
structure Logged (α : Type) where
  /-- The result. -/
  value : α
  /-- The diagnostics in order. -/
  entries : List Entry

namespace Logged

variable {α β : Type}

/-- Two results are the same if their values and diagnostics are. -/
@[ext] theorem ext {left right : Logged α} (value : left.value = right.value)
    (entries : left.entries = right.entries) : left = right := by
  -- A result has no other parts.
  cases left
  cases right
  simp_all

instance : Monad Logged where
  pure value := ⟨value, []⟩
  bind first next :=
    let second := next first.value
    ⟨second.value, first.entries ++ second.entries⟩

@[simp] theorem value_pure (value : α) : (pure value : Logged α).value = value := rfl

@[simp] theorem entries_pure (value : α) : (pure value : Logged α).entries = [] := rfl

@[simp] theorem value_bind (first : Logged α) (next : α → Logged β) :
    (first >>= next).value = (next first.value).value := rfl

@[simp] theorem entries_bind (first : Logged α) (next : α → Logged β) :
    (first >>= next).entries = first.entries ++ (next first.value).entries := rfl

instance : LawfulMonad Logged := LawfulMonad.mk' Logged
  (fun result => by
    -- Nothing is appended.
    apply Logged.ext
    · rfl
    · show result.entries ++ [] = result.entries
      simp)
  (fun value next => by
    -- Nothing is put in front.
    apply Logged.ext <;> rfl)
  (fun first second third => by
    -- Appending diagnostics is associative.
    apply Logged.ext
    · rfl
    · simp)

/-- Leaves a diagnostic. -/
def log (diagnostic : Diagnostic) : Logged Unit :=
  ⟨(), [⟨[], diagnostic⟩]⟩

/-- Marks all diagnostics of a computation as arising in a render of the given depth. -/
def within (depth : Nat) (result : Logged α) : Logged α :=
  ⟨result.value, result.entries.map fun entry => ⟨depth :: entry.renders, entry.diagnostic⟩⟩

@[simp] theorem value_within (depth : Nat) (result : Logged α) :
    (result.within depth).value = result.value := rfl

end Logged

/-- A computation that may fail and leaves its diagnostics even then. -/
abbrev Rendering := ExceptT RenderError Logged

namespace Rendering

variable {α : Type}

/-- Leaves a diagnostic. -/
def log (diagnostic : Diagnostic) : Rendering Unit :=
  ExceptT.lift (Logged.log diagnostic)

/-- Marks all diagnostics of a computation as arising in a render of the given depth. -/
def within (depth : Nat) (computation : Rendering α) : Rendering α :=
  ExceptT.mk (computation.run.within depth)

/-- A computation that fails or not without any diagnostics. -/
def ofExcept {ε : Type} (wrap : ε → RenderError) (result : Except ε α) : Rendering α :=
  ExceptT.mk (pure (result.mapError wrap))

/-- The outcome of a computation, without its diagnostics. -/
def outcome (computation : Rendering α) : Except RenderError α :=
  computation.run.value

end Rendering

namespace Template

/-- The tokens of a source. -/
def tokenize (source : String) : Rendering (List Token) := do
  let found ← Rendering.ofExcept .lexical (tokens source)
  Rendering.log (.tokenized found.length)
  return found

/-- The items that tokens make up. -/
def build (tokens : List Token) : Rendering (List Item) := do
  let items ← Rendering.ofExcept .parse (parse tokens)
  Rendering.log (.parsed items.length)
  return items

end Template

end PayloadTemplate
