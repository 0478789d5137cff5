import PayloadTemplate.Proofs.Outcome
import PayloadTemplate.Render.Resolver

/-! What paths come to, diagnostics aside, and why some of them come to nothing. -/

namespace PayloadTemplate.Render

open Loop

/-- What a variable comes to when its template comes to this.  Only a fatal error is passed on. -/
def variableValue : Except RenderError (Option String) → Except RenderError Value
  | .ok (some text) => .ok (.string text)
  | .ok none => .ok .null
  | .error error => if error.isFatal then .error error else .ok .null

theorem variableValue_eq_error_iff {rendered : Except RenderError (Option String)}
    {error : RenderError} :
    variableValue rendered = .error error ↔ rendered = .error error ∧ error.isFatal = true := by
  -- Results and harmless errors both leave the variable with a value.
  cases rendered with
  | ok result => cases result <;> simp [variableValue]
  | error other =>
    by_cases fatal : other.isFatal = true
    · simp only [variableValue, fatal, if_true, Except.error.injEq]
      exact ⟨fun same => ⟨same, same ▸ fatal⟩, And.left⟩
    · simp only [variableValue, if_neg fatal, reduceCtorEq, Except.error.injEq, false_iff]
      rintro ⟨rfl, found⟩
      exact fatal found

/-- The value of a variable depends only on what its template comes to. -/
theorem renderVariable_outcome (scope : Scope) (nested : NestedRender) (source : String) :
    (renderVariable scope nested source).outcome = variableValue (nested source).outcome := by
  rw [renderVariable, Rendering.outcome_bind]
  -- The nested render is run as a computation that does not fail itself.
  have attempted : Rendering.outcome (ExceptT.lift (nested source).run) =
      Except.ok (nested source).outcome := rfl
  rw [attempted]
  simp only [Bind.bind, Except.bind]
  cases (nested source).outcome with
  | ok result => cases result <;> rfl
  | error error =>
    dsimp only [variableValue]
    -- Otherwise a diagnostic is left and the variable has no value.
    split <;> rfl

/-- A path into the payload always has a value, be it an empty text. -/
theorem resolveData_outcome (scope : Scope) (path : String) (bindings : Bindings) :
    (resolveData scope path bindings).outcome =
      .ok ((follow bindings (pathSegments path) scope.payload).getD (.string "")) := by
  -- Where the path leads nowhere, only a diagnostic is left.
  unfold resolveData
  cases follow bindings (pathSegments path) scope.payload <;> rfl

/-- A path that begins with the word for the payload is followed into the payload. -/
theorem resolve_data {path : String} (root : pathRoot path = "data") (scope : Scope)
    (nested : NestedRender) (bindings : Bindings) :
    (resolve scope nested path bindings).outcome =
      .ok ((follow bindings (pathSegments path) scope.payload).getD (.string "")) := by
  rw [resolve, if_pos root, resolveData_outcome]

/-- The template that a variable stands for, if there are variables and it is one of them. -/
def templateOf? (definitions : Option Lookup) (name : String) : Option String :=
  definitions.bind fun lookup => lookup name

/-- A variable that is defined has the value of its template. -/
theorem resolve_variable {scope : Scope} {path source : String} (root : pathRoot path = "config")
    (defined : templateOf? scope.definitions (pathName path) = some source)
    (nested : NestedRender) (bindings : Bindings) :
    (resolve scope nested path bindings).outcome = variableValue (nested source).outcome := by
  -- The first segment alone decides which kind of path this is.
  obtain ⟨lookup, known, found⟩ := Option.bind_eq_some_iff.mp defined
  simp [resolve, root, resolveVariable, known, found, renderVariable_outcome]

/-- A variable that is not there is null. -/
theorem resolve_undefined {scope : Scope} {path : String} {lookup : Lookup}
    (root : pathRoot path = "config") (given : scope.definitions = some lookup)
    (missing : lookup (pathName path) = none) (nested : NestedRender) (bindings : Bindings) :
    (resolve scope nested path bindings).outcome = .ok .null := by
  -- Only a diagnostic is left.
  simp only [resolve, root, resolveVariable, given, missing]
  rfl

/-- The segment that begins a path to a variable. -/
theorem pathRoot_variable (name : String) : pathRoot ("config." ++ name) = "config" := by
  simp [pathRoot, List.takeWhile]

/-- The name in a path to a variable. -/
theorem pathName_variable (name : String) : pathName ("config." ++ name) = name := by
  simp [pathName, List.dropWhile]

/-- Why a path has no value under some bindings. -/
inductive Unresolvable (scope : Scope) (nested : NestedRender) (path : String)
    (bindings : Bindings) : RenderError → Prop where
  /-- The path begins with a word that has no values. -/
  | unsupportedRoot (notData : pathRoot path ≠ "data") (notVariable : pathRoot path ≠ "config")
      (notKey : pathRoot path ≠ "key") :
      Unresolvable scope nested path bindings (.resolution (.unsupportedRoot path))
  /-- The path names a variable, and there are none. -/
  | noVariables (root : pathRoot path = "config") (missing : scope.definitions = none) :
      Unresolvable scope nested path bindings (.resolution .noVariables)
  /-- The path names a loop, and no loop has a key. -/
  | outsideLoops (root : pathRoot path = "key") (unbound : bindings = []) :
      Unresolvable scope nested path bindings (.resolution .outsideLoops)
  /-- The path names a variable whose template fails in a way that ends all renders. -/
  | fatal {error : RenderError} {source : String} (root : pathRoot path = "config")
      (defined : templateOf? scope.definitions (pathName path) = some source)
      (failed : (nested source).outcome = .error error) (escapes : error.isFatal = true) :
      Unresolvable scope nested path bindings error

section Causes

variable {scope : Scope} {nested : NestedRender} {path : String} {bindings : Bindings}
  {error : RenderError}

/-- Only a fatal error inside a variable makes a path to it fail, or that there are no variables. -/
theorem resolveVariable_eq_error (root : pathRoot path = "config")
    (failed : (resolveVariable scope nested path).outcome = .error error) :
    Unresolvable scope nested path bindings error := by
  -- It is decided first whether there are variables at all, then whether this is one of them.
  unfold resolveVariable at failed
  split at failed
  · rename_i missing
    cases failed
    exact .noVariables root missing
  · rename_i lookup known
    split at failed
    · rename_i source found
      rw [renderVariable_outcome, variableValue_eq_error_iff] at failed
      refine .fatal root ?_ failed.1 failed.2
      rw [templateOf?, known]
      exact found
    · -- A variable that is not defined is null.
      cases failed

/-- Every path that cannot be resolved has one of the causes. -/
theorem resolve_eq_error (failed : (resolve scope nested path bindings).outcome = .error error) :
    Unresolvable scope nested path bindings error := by
  unfold resolve at failed
  split at failed
  · -- Nothing in the payload fails.
    simp [resolveData_outcome] at failed
  · rename_i notData
    split at failed
    · rename_i root
      exact resolveVariable_eq_error root failed
    · rename_i notVariable
      split at failed
      · rename_i root
        unfold resolveKey at failed
        split at failed
        · rename_i unbound
          cases failed
          exact .outsideLoops root (List.isEmpty_iff.mp unbound)
        · -- A name that no loop has is null.
          split at failed <;> simp at failed
      · rename_i notKey
        cases failed
        exact .unsupportedRoot notData notVariable notKey

/-- A path fails with a resolution error of its own or with a fatal one. -/
theorem Unresolvable.kind (cause : Unresolvable scope nested path bindings error) :
    (∃ fault, error = .resolution fault) ∨ error.isFatal = true := by
  -- Only an error of a nested render can be fatal.
  cases cause with
  | fatal _ _ _ escapes => exact .inr escapes
  | _ => exact .inl ⟨_, rfl⟩

end Causes

end PayloadTemplate.Render
