import PayloadTemplate.Proofs.Render.Faults
import PayloadTemplate.Proofs.Template.Printer

/-!
Renders under different limits.  Two of them go the same way until one of them exceeds its limit; so
a variable means what its template means on its own under the depths that are left, and a higher
limit changes nothing but what a lower one has cut off.
-/

namespace PayloadTemplate.Render

open Loop Template

/-- How an outcome under a second limit follows the one under a first, where the second allows so
many depths more. -/
inductive Follows (limit other extra : Nat) {α : Type} :
    Except RenderError α → Except RenderError α → Prop where
  /-- Results are the same. -/
  | result (value : α) : Follows limit other extra (.ok value) (.ok value)
  /-- Errors that do not escape from variables are the same. -/
  | failure {error : RenderError} (harmless : error.isFatal = false) :
      Follows limit other extra (.error error) (.error error)
  /-- Where the first limit is exceeded, the second is exceeded at the same place, or else it allows
  more and anything may follow. -/
  | exceeded {outcome : Except RenderError α}
      (together : extra = 0 → outcome = .error (.recursionLimit other)) :
      Follows limit other extra (.error (.recursionLimit limit)) outcome

namespace Follows

variable {limit other extra : Nat} {α β : Type}

/-- What cannot exceed a limit is the same under both. -/
theorem of_harmless {outcome : Except RenderError α}
    (harmless : ∀ error, outcome = .error error → error.isFatal = false) :
    Follows limit other extra outcome outcome := by
  -- An error that is not fatal is the same under both limits.
  cases outcome with
  | ok value => exact .result value
  | error error => exact .failure (harmless error rfl)

/-- Steps that follow each other make up computations that do. -/
theorem bind {first second : Except RenderError α} {next later : α → Except RenderError β}
    (follows : Follows limit other extra first second)
    (each : ∀ value, Follows limit other extra (next value) (later value)) :
    Follows limit other extra (first >>= next) (second >>= later) := by
  cases follows with
  | result value => exact each value
  | failure harmless => exact .failure harmless
  | exceeded together =>
    -- The second computation ends here as well if the limits are exceeded together.
    refine .exceeded fun level => ?_
    rw [together level]
    rfl

/-- Results for the same elements, one after the other. -/
theorem mapM {first second : α → Except RenderError β} {elements : List α}
    (each : ∀ element, Follows limit other extra (first element) (second element)) :
    Follows limit other extra (elements.mapM first) (elements.mapM second) := by
  induction elements with
  | nil => exact .result []
  | cons element rest ih =>
    -- The first element that parts the two computations ends the first of them.
    rw [List.mapM_cons, List.mapM_cons]
    exact (each element).bind fun _ => ih.bind fun _ => .result _

/-- Variables follow each other if their templates do. -/
theorem variableValue {first second : Except RenderError (Option String)}
    (follows : Follows limit other extra first second) :
    Follows limit other extra (variableValue first) (variableValue second) := by
  cases follows with
  | result text => cases text <;> exact .result _
  | failure harmless =>
    -- The same error leaves both variables null.
    simp only [Render.variableValue, harmless]
    exact .result _
  | exceeded together =>
    -- An exceeded limit escapes from the variable, so it is exceeded around the variable as well.
    refine .exceeded fun level => ?_
    rw [together level]
    rfl

/-- Nothing changes unless the first limit is exceeded. -/
theorem eq_of_settled {first second : Except RenderError α}
    (follows : Follows limit other extra first second)
    (settled : first ≠ .error (.recursionLimit limit)) : second = first := by
  -- The limit is the only outcome that the other run need not have.
  cases follows with
  | result value => rfl
  | failure harmless => rfl
  | exceeded together => exact absurd rfl settled

end Follows

/-! ## Items -/

section Items

variable {limit other extra : Nat} {first second : Resolve}

/-- Combinations are looked at one after the other under both limits. -/
theorem perCombination_follows {α : Type} {compute later : Bindings → Rendering α}
    (each : ∀ bindings,
      Follows limit other extra (compute bindings).outcome (later bindings).outcome)
    (stack : Stack) :
    Follows limit other extra ((perCombination compute).outcome stack)
      ((perCombination later).outcome stack) := by
  -- Which combinations there are depends on the loops alone.
  rw [perCombination_outcome, perCombination_outcome]
  exact .mapM fun _ => each _

/-- Whether all paths go the same way under both limits. -/
def PathsFollow (limit other extra : Nat) (first second : Resolve) : Prop :=
  ∀ path bindings,
    Follows limit other extra (first path bindings).outcome (second path bindings).outcome

/-- A value is converted in the same way under both limits. -/
theorem converted_follows {α : Type} (follows : PathsFollow limit other extra first second)
    (path : String) (convert : Value → α) (stack : Stack) :
    Follows limit other extra
      ((perCombination fun bindings => do return convert (← first path bindings)).outcome stack)
      ((perCombination fun bindings => do return convert (← second path bindings)).outcome
        stack) := by
  -- The conversion is applied to the same value, or not at all.
  refine perCombination_follows (fun bindings => ?_) stack
  rw [Rendering.outcome_bind, Rendering.outcome_bind]
  exact (follows path bindings).bind fun _ => .result _

/-- A loop ranges over the same keys under both limits. -/
theorem domainAt_follows (follows : PathsFollow limit other extra first second)
    (source : String) :
    Follows limit other extra (domainAt first source) (domainAt second source) := by
  -- Whether a value has keys does not depend on the limit.
  refine (follows source []).bind fun value => ?_
  split
  · exact .result _
  · exact .failure rfl

mutual

/-- An item goes the same way under both limits if its paths do. -/
theorem renderItem_follows (follows : PathsFollow limit other extra first second) :
    ∀ (item : Item) (stack : Stack),
      Follows limit other extra ((renderItem first item).outcome stack)
        ((renderItem second item).outcome stack)
  | .text content, stack => by
    rw [renderItem_text_outcome, renderItem_text_outcome]
    exact .result _
  | .escaped character, stack => by
    rw [renderItem_escaped_outcome, renderItem_escaped_outcome]
    exact .result _
  | .reference path, stack => by
    -- Turning a value into text does not depend on the limit.
    rw [renderItem, renderItem]
    exact converted_follows follows path Value.text stack
  | .whenTrue condition body, stack => by
    -- Bodies are rendered whether or not their conditions hold, so every body counts.
    rw [renderItem_whenTrue_outcome, renderItem_whenTrue_outcome]
    exact (renderItems_follows follows body stack).bind fun _ =>
      (converted_follows follows condition Value.isTruthy stack).bind fun _ => .result _
  | .whenFalse condition body, stack => by
    rw [renderItem_whenFalse_outcome, renderItem_whenFalse_outcome]
    exact (renderItems_follows follows body stack).bind fun _ =>
      (converted_follows follows condition Value.isTruthy stack).bind fun _ => .result _
  | .choice condition accepted refused, stack => by
    rw [renderItem_choice_outcome, renderItem_choice_outcome]
    exact (renderItems_follows follows accepted stack).bind fun _ =>
      (renderItems_follows follows refused stack).bind fun _ =>
        (converted_follows follows condition Value.isTruthy stack).bind fun _ => .result _
  | .loop index source body, stack => by
    rw [renderItem_loop_outcome, renderItem_loop_outcome]
    refine (domainAt_follows follows source).bind fun domain => ?_
    -- The loop is entered in the same way, so its body is rendered under the same loops.
    have entered : Follows limit other extra
        ((stack.push index.toString domain).mapError .loop)
        ((stack.push index.toString domain).mapError .loop) := by
      cases stack.push index.toString domain with
      | ok inner => exact .result inner
      | error fault => exact .failure rfl
    exact entered.bind fun inner => (renderItems_follows follows body inner).bind fun _ => .result _

/-- Items go the same way under both limits if their paths do. -/
theorem renderItems_follows (follows : PathsFollow limit other extra first second) :
    ∀ (items : List Item) (stack : Stack),
      Follows limit other extra ((renderItems first items).outcome stack)
        ((renderItems second items).outcome stack)
  | [], stack => by
    rw [renderItems_nil_outcome, renderItems_nil_outcome]
    exact .result _
  | item :: rest, stack => by
    -- The items follow each other, and so do their errors.
    rw [renderItems_cons_outcome, renderItems_cons_outcome]
    exact (renderItem_follows follows item stack).bind fun _ =>
      (renderItems_follows follows rest stack).bind fun _ => .result _

end

end Items

/-! ## Sources -/

section Sources

variable {limit other extra : Nat} {payload : Value} {definitions : Option Lookup}

/-- A path goes the same way under both limits if the templates of variables do.  At which depth it
is resolved does not matter. -/
theorem resolve_follows {first second : NestedRender} {depth otherDepth : Nat}
    (follows : ∀ source,
      Follows limit other extra (first source).outcome (second source).outcome) :
    PathsFollow limit other extra (resolve ⟨payload, definitions, depth⟩ first)
      (resolve ⟨payload, definitions, otherDepth⟩ second) := by
  intro path bindings
  unfold resolve
  split
  · -- The payload is the same.
    rw [resolveData_outcome, resolveData_outcome]
    exact .result _
  split
  · unfold resolveVariable
    cases definitions with
    | none => exact .failure rfl
    | some lookup =>
      dsimp only
      -- A template is rendered within the allowance that is left on each side.
      cases lookup (pathName path) with
      | none => exact .result _
      | some source =>
        rw [renderVariable_outcome, renderVariable_outcome]
        exact (follows source).variableValue
  split
  · -- Loops have no errors that escape.
    refine .of_harmless fun error failed => ?_
    unfold resolveKey at failed
    split at failed
    · cases failed
      rfl
    · split at failed <;> cases failed
  · exact .failure rfl

/-- An empty source has no result, whatever is allowed. -/
theorem renderWithin_empty (limit : Nat) (payload : Value) (definitions : Option Lookup)
    (allowance depth : Nat) :
    (renderWithin limit payload definitions allowance depth "").outcome = .ok none := by
  cases allowance <;> rfl

/-- Without an allowance every source that is not empty exceeds the limit. -/
theorem renderWithin_exceeded {source : String} (nonempty : source ≠ "") (limit : Nat)
    (payload : Value) (definitions : Option Lookup) (depth : Nat) :
    (renderWithin limit payload definitions 0 depth source).outcome =
      .error (.recursionLimit limit) := by
  -- Without any allowance nothing is rendered but the empty source.
  have filled : source.isEmpty = false := by simpa using nonempty
  rw [renderWithin, filled]
  rfl

/-- A source goes the same way under both limits.  The depths at which it is rendered do not
matter, only how many further ones are allowed. -/
theorem renderWithin_follows :
    ∀ {allowance depth otherDepth : Nat} {source : String},
      Follows limit other extra
        (renderWithin limit payload definitions allowance depth source).outcome
        (renderWithin other payload definitions (extra + allowance) otherDepth source).outcome := by
  intro allowance
  -- The induction is on what the first limit still allows, at all depths and for all sources.
  induction allowance with
  | zero =>
    intro depth otherDepth source
    by_cases nonempty : source = ""
    · rw [nonempty, renderWithin_empty, renderWithin_empty]
      exact .result none
    · -- The first limit is exceeded here, and the second one too if it allows nothing more.
      rw [renderWithin_exceeded nonempty]
      refine .exceeded fun level => ?_
      rw [level, renderWithin_exceeded nonempty]
  | succ allowance ih =>
    intro depth otherDepth source
    by_cases nonempty : source = ""
    · rw [nonempty, renderWithin_empty, renderWithin_empty]
      exact .result none
    rw [← Nat.add_assoc, renderWithin_outcome nonempty, renderWithin_outcome nonempty]
    -- Reading a source and counting its texts have no errors that escape.
    have reading : Follows limit other extra (itemsOf source) (itemsOf source) := by
      refine .of_harmless fun error failed => ?_
      rcases itemsOf_eq_error failed with ⟨_, rfl⟩ | ⟨_, rfl⟩
      · rfl
      · rfl
    refine reading.bind fun items => ?_
    -- The templates of variables have one depth less under both limits.
    refine (renderItems_follows (resolve_follows fun _ => ih) items Stack.empty).bind ?_
    intro texts
    refine .of_harmless fun error failed => ?_
    unfold singleText at failed
    split at failed <;> cases failed
    rfl

end Sources

/-! ## Variables on their own -/

/-- What a reference to a variable comes to under a limit, given what the variable's template comes
to when it is rendered on its own. -/
def referenceValue (limit : Nat) : Except RenderError (Option String) → Except RenderError Value
  | .ok (some text) => .ok (.string text)
  | .ok none => .ok .null
  | .error (.recursionLimit _) => .error (.recursionLimit limit)
  | .error _ => .ok .null

/-- Where two limits are exceeded together, they only differ in the limit that is reported. -/
theorem Follows.variableValue_eq {limit other : Nat}
    {first second : Except RenderError (Option String)}
    (follows : Follows limit other 0 first second) :
    Render.variableValue second = referenceValue other first := by
  cases follows with
  | result text => cases text <;> rfl
  | @failure error harmless =>
    -- An exceeded limit is not harmless, and any other error leaves the variable null.
    cases error with
    | recursionLimit _ => cases harmless
    | _ => rfl
  | exceeded together =>
    -- Both renders exceed their limits, and the second limit is the one reported.
    rw [together rfl]
    rfl

/-- Outside all loops there is one combination, without any bindings. -/
theorem perCombination_outside {α : Type} (compute : Bindings → Rendering α) :
    (perCombination compute).outcome Stack.empty =
      (compute []).outcome.map fun result => [result] := by
  -- The empty choice of keys has number zero.
  rw [perCombination_outcome]
  show ([0].mapM fun _ => (compute []).outcome) = _
  cases (compute []).outcome <;> rfl

/-- A source with one reference has the text of the path's value. -/
theorem tryRender_reference {source path : String} (nonempty : source ≠ "")
    (parsed : Template.itemsOf source = .ok [.reference path]) (engine : Engine) (payload : Value)
    (definitions : Option Lookup) :
    (engine.tryRender source payload definitions).outcome =
      (engine.valuesAt payload definitions 0 path []).outcome.map fun value => some value.text := by
  -- Outside of loops, the only combination has no keys.
  rw [Engine.tryRender_outcome nonempty, parsed]
  simp only [Bind.bind, Except.bind]
  rw [renderItems_cons_outcome, renderItems_nil_outcome, renderItem, perCombination_outside,
    Rendering.outcome_bind]
  show _ = Except.map _ (resolve _ _ path []).outcome
  cases (resolve ⟨payload, definitions, 0⟩ (engine.renderNested ⟨payload, definitions, 0⟩) path
    []).outcome with
  | error error => rfl
  | ok value =>
    -- Nothing follows the reference, so nothing is added to its text.
    show Except.ok (some (value.text ++ "")) = _
    rw [String.append_empty]
    rfl

/-- The value of a variable that is defined, at some depth. -/
theorem valuesAt_reference {engine : Engine} {lookup : Lookup} {name template : String}
    {depth : Nat}
    (defined : lookup name = some template) (within : depth ≤ engine.maxDepth) (payload : Value)
    (bindings : Bindings) :
    (engine.valuesAt payload (some lookup) depth ("config." ++ name) bindings).outcome =
      if template = "" then .ok .null
      else if depth = engine.maxDepth then .error (.recursionLimit engine.maxDepth)
      else referenceValue engine.maxDepth
        ((Engine.mk (engine.maxDepth - depth - 1)).tryRender template payload
          (some lookup)).outcome := by
  have known : templateOf? (some lookup) (pathName ("config." ++ name)) = some template := by
    rw [pathName_variable]
    exact defined
  -- Before anything is rendered, the variable is looked up.
  rw [Engine.valuesAt, resolve_variable (pathRoot_variable name) known, Engine.renderNested]
  split
  · rename_i empty
    rw [empty, renderWithin_empty]
    rfl
  rename_i nonempty
  split
  · rename_i last
    rw [last, Nat.sub_self, renderWithin_exceeded nonempty]
    rfl
  · -- The template is rendered one depth below, with the allowance of a render of its own.
    obtain ⟨left, rest⟩ : ∃ left, engine.maxDepth - depth = left + 1 :=
      ⟨engine.maxDepth - depth - 1, by omega⟩
    have follows : Follows left engine.maxDepth 0
        ((Engine.mk left).tryRender template payload (some lookup)).outcome
        (renderWithin engine.maxDepth payload (some lookup) (0 + (left + 1)) (depth + 1)
          template).outcome := renderWithin_follows
    rw [rest, Nat.add_sub_cancel, ← follows.variableValue_eq, Nat.zero_add]
    rfl

/-- A reference to a variable that is defined comes to the same under all bindings of loops: to null
if the variable's template is empty, to an error if it is not and no further depth is allowed, and
otherwise to what a top-level render of the template comes to under the depths that are left, where
an exceeded limit is reported as the whole limit and any other error leaves the variable null.  So
what a source with only such a reference comes to is determined by its template under the next lower
limit. -/
theorem reference_eq_render_alone (engine : Engine) (payload : Value) (lookup : Lookup)
    (name template : String) (defined : lookup name = some template) :
    (∀ depth bindings, depth ≤ engine.maxDepth →
      (engine.valuesAt payload (some lookup) depth ("config." ++ name) bindings).outcome =
        if template = "" then .ok .null
        else if depth = engine.maxDepth then .error (.recursionLimit engine.maxDepth)
        else referenceValue engine.maxDepth
          ((Engine.mk (engine.maxDepth - depth - 1)).tryRender template payload
            (some lookup)).outcome) ∧
      (path? ("config." ++ name).toList = some ("config." ++ name).toList →
        0 < engine.maxDepth →
          (engine.tryRender ("$\x7b" ++ ("config." ++ name) ++ "\x7d") payload
              (some lookup)).outcome =
            (referenceValue engine.maxDepth
              ((Engine.mk (engine.maxDepth - 1)).tryRender template payload
                (some lookup)).outcome).map fun value => some value.text) := by
  refine ⟨fun depth bindings within => valuesAt_reference defined within payload bindings, ?_⟩
  intro spelled positive
  -- At the top level nothing has been used up of the limit.
  have nonempty : "$\x7b" ++ ("config." ++ name) ++ "\x7d" ≠ "" := by
    intro empty
    have characters := congrArg String.toList empty
    simp at characters
  rw [tryRender_reference nonempty (itemsOf_braced spelled),
    valuesAt_reference defined (Nat.zero_le _)]
  split
  · -- An empty template has no result on its own either.
    rename_i empty
    rw [empty, Engine.tryRender, renderWithin_empty]
    rfl
  · rw [if_neg (Nat.ne_of_lt positive), Nat.sub_zero]

/-- A payload with a name. -/
def person : Value :=
  .map [("name", .string "Ann")]

/-- Two variables, one of which refers to the other. -/
def greetings : Lookup := fun name =>
  List.lookup name [("greeting", "Hi $data.name"), ("outer", "<$\x7bconfig.greeting\x7d>")]

/-- One further depth is too little inside a variable and enough at the top level. -/
theorem reference_eq_render_alone_greetings :
    greetings "outer" = some "<$\x7bconfig.greeting\x7d>" ∧
      ((Engine.mk 2).valuesAt person (some greetings) 1 ("config." ++ "outer")
        [("i", .index 0)]).outcome = .error (.recursionLimit 2) ∧
      ((Engine.mk 2).tryRender ("$\x7b" ++ ("config." ++ "outer") ++ "\x7d") person
        (some greetings)).outcome = .ok (some "<Hi Ann>") := by
  -- The template is rendered on its own under both limits.
  have exceeded : ((Engine.mk 0).tryRender "<$\x7bconfig.greeting\x7d>" person
      (some greetings)).outcome = .error (.recursionLimit 0) := by
    decide +kernel
  have rendered : ((Engine.mk 1).tryRender "<$\x7bconfig.greeting\x7d>" person
      (some greetings)).outcome = .ok (some "<Hi Ann>") := by
    decide +kernel
  have alone := reference_eq_render_alone ⟨2⟩ person greetings "outer" _ rfl
  refine ⟨rfl, ?_, ?_⟩
  · rw [alone.1 1 [("i", .index 0)] (by decide), if_neg (by decide), if_neg (by decide)]
    exact congrArg (referenceValue 2) exceeded
  · rw [alone.2 (by decide +kernel) (by decide)]
    exact congrArg (fun result => (referenceValue 2 result).map _) rendered

/-! ## Higher limits -/

/-- What a render comes to under a limit, it comes to under every higher one as well, unless the
limit has been exceeded. -/
theorem tryRender_of_le {limit higher : Nat} (le : limit ≤ higher) {source : String}
    {payload : Value} {definitions : Option Lookup}
    (settled : ((Engine.mk limit).tryRender source payload definitions).outcome ≠
      .error (.recursionLimit limit)) :
    ((Engine.mk higher).tryRender source payload definitions).outcome =
      ((Engine.mk limit).tryRender source payload definitions).outcome := by
  -- The higher limit allows some depths more.
  obtain ⟨extra, rfl⟩ := Nat.exists_eq_add_of_le' le
  have follows : Follows limit (extra + limit) extra
      ((Engine.mk limit).tryRender source payload definitions).outcome
      ((Engine.mk (extra + limit)).tryRender source payload definitions).outcome :=
    renderWithin_follows
  exact follows.eq_of_settled settled

/-- A variable that nests within the limit is rendered in the same way under a higher one. -/
theorem tryRender_of_le_greetings :
    ((Engine.mk 2).tryRender "$config.outer" person (some greetings)).outcome ≠
        .error (.recursionLimit 2) ∧
      ((Engine.mk 5).tryRender "$config.outer" person (some greetings)).outcome =
        .ok (some "<Hi Ann>") := by
  have rendered : ((Engine.mk 2).tryRender "$config.outer" person (some greetings)).outcome =
      .ok (some "<Hi Ann>") := by
    decide +kernel
  -- A text is no error, so it is what the larger limit gives as well.
  have settled : ((Engine.mk 2).tryRender "$config.outer" person (some greetings)).outcome ≠
      .error (.recursionLimit 2) := by
    rw [rendered]
    nofun
  exact ⟨settled, (tryRender_of_le (by decide) settled).trans rendered⟩

end PayloadTemplate.Render
