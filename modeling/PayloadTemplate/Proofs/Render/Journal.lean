import PayloadTemplate.Proofs.Render.Resolver
import PayloadTemplate.Proofs.Render.Walk

/-!
What the diagnostics of a render may be.  A condition on single diagnostics holds of all that a
render leaves if it holds of those that are left directly and of those of the variables.
-/

namespace PayloadTemplate

variable {α β : Type} {allowed : Entry → Prop}

/-- All diagnostics of a result satisfy a condition. -/
def Logged.Leaves (allowed : Entry → Prop) (result : Logged α) : Prop :=
  ∀ entry ∈ result.entries, allowed entry

/-- Nothing is left where nothing is done. -/
theorem Logged.Leaves.pure (value : α) : (Pure.pure value : Logged α).Leaves allowed :=
  fun _ member => absurd member List.not_mem_nil

/-- The diagnostics of a sequence are those of its steps. -/
theorem Logged.Leaves.bind {first : Logged α} {next : α → Logged β}
    (leaves : first.Leaves allowed) (later : (next first.value).Leaves allowed) :
    (first >>= next).Leaves allowed := by
  -- The journal of a sequence is that of its first step with that of the next behind it.
  intro entry member
  rw [Logged.entries_bind, List.mem_append] at member
  rcases member with early | late
  · exact leaves entry early
  · exact later entry late

namespace Rendering

/-- All diagnostics of a computation satisfy a condition, also if it fails. -/
def Leaves (allowed : Entry → Prop) (computation : Rendering α) : Prop :=
  computation.run.Leaves allowed

namespace Leaves

theorem pure (value : α) : Leaves allowed (Pure.pure value : Rendering α) :=
  Logged.Leaves.pure _

theorem throw (error : RenderError) : Leaves allowed (MonadExcept.throw error : Rendering α) :=
  Logged.Leaves.pure _

theorem ofExcept {ε : Type} (wrap : ε → RenderError) (result : Except ε α) :
    Leaves allowed (Rendering.ofExcept wrap result) :=
  Logged.Leaves.pure _

theorem log {diagnostic : Diagnostic} (fits : allowed ⟨[], diagnostic⟩) :
    Leaves allowed (Rendering.log diagnostic) := by
  -- There is just this one.
  intro entry member
  have only : entry = ⟨[], diagnostic⟩ := List.mem_singleton.mp member
  rw [only]
  exact fits

/-- A step that fails is the last one. -/
theorem bind {first : Rendering α} {next : α → Rendering β} (leaves : Leaves allowed first)
    (later : ∀ value, first.outcome = .ok value → Leaves allowed (next value)) :
    Leaves allowed (first >>= next) := by
  refine Logged.Leaves.bind leaves ?_
  -- What the next step is depends on how the first one ends.
  show Logged.Leaves _ (ExceptT.bindCont next first.outcome)
  cases computed : first.outcome with
  | ok value => exact later value computed
  | error error => exact Logged.Leaves.pure _

theorem mapM {compute : α → Rendering β} (each : ∀ element, Leaves allowed (compute element))
    (elements : List α) : Leaves allowed (elements.mapM compute) := by
  -- One after the other, each leaves its own.
  induction elements with
  | nil => exact pure []
  | cons element rest ih =>
    rw [List.mapM_cons]
    exact (each element).bind fun _ _ => ih.bind fun _ _ => pure _

/-- Inside a render, the depth of that render is put in front. -/
theorem within {depth : Nat} {computation : Rendering α}
    (leaves :
      Leaves (fun entry => allowed ⟨depth :: entry.renders, entry.diagnostic⟩) computation) :
    Leaves allowed (Rendering.within depth computation) := by
  -- Each diagnostic is one of the computation, seen from one render further out.
  intro entry member
  obtain ⟨inner, among, rfl⟩ := List.mem_map.mp member
  exact leaves inner among

/-- What satisfies a stronger condition satisfies a weaker one. -/
theorem mono {stronger : Entry → Prop} {computation : Rendering α}
    (leaves : Leaves stronger computation) (weaker : ∀ entry, stronger entry → allowed entry) :
    Leaves allowed computation :=
  fun entry member => weaker entry (leaves entry member)

end Leaves

end Rendering

namespace Render

open Loop Template

namespace Walk

/-- All diagnostics of a computation over loops satisfy a condition, whatever the loops. -/
def Leaves (allowed : Entry → Prop) (computation : Walk α) : Prop :=
  ∀ stack, (computation.run.run stack).Leaves allowed

namespace Leaves

theorem pure (value : α) : Leaves allowed (Pure.pure value : Walk α) :=
  fun _ => Logged.Leaves.pure _

theorem throw (error : RenderError) : Leaves allowed (MonadExcept.throw error : Walk α) :=
  fun _ => Logged.Leaves.pure _

theorem get : Leaves allowed (MonadState.get : Walk Stack) :=
  fun _ => Logged.Leaves.pure _

theorem set (stack : Stack) : Leaves allowed (MonadStateOf.set stack : Walk Unit) :=
  fun _ => Logged.Leaves.pure _

theorem lift {computation : Rendering α} (leaves : computation.Leaves allowed) :
    Leaves allowed (Walk.lift computation) :=
  -- The loops are put beside the result.
  fun _ => Logged.Leaves.bind leaves (Logged.Leaves.pure _)

theorem attempt {computation : Walk α} (leaves : Leaves allowed computation) :
    Leaves allowed (Walk.attempt computation) :=
  -- A failure is kept as a result.
  fun stack => Logged.Leaves.bind (leaves stack) (Logged.Leaves.pure _)

/-- A step that fails is the last one, and the next step finds the loops that it has left. -/
theorem bind {first : Walk α} {next : α → Walk β} (leaves : Leaves allowed first)
    (later : ∀ value, Leaves allowed (next value)) : Leaves allowed (first >>= next) := by
  intro stack
  rw [ExceptT.run_bind, StateT.run_bind]
  refine Logged.Leaves.bind (leaves stack) ?_
  -- Only how the first step ends matters from here on, and which loops it leaves.
  generalize (first.run.run stack).value = found
  obtain ⟨found, left⟩ := found
  cases found with
  | ok value => exact later value left
  | error error => exact Logged.Leaves.pure _

/-- Outside all loops, a computation leaves the same. -/
theorem start {computation : Walk α} (leaves : Leaves allowed computation) :
    (Walk.start computation).Leaves allowed :=
  Logged.Leaves.bind (leaves Stack.empty) (Logged.Leaves.pure _)

end Leaves

end Walk

/-- Whether a diagnostic is about something else than the failure of a variable. -/
def isOwn : Diagnostic → Bool
  | .variableFailed _ _ => false
  | _ => true

/-- Whether a condition allows all that a render leaves directly, failures of variables apart. -/
def AllowsOwn (allowed : Entry → Prop) : Prop :=
  ∀ diagnostic, isOwn diagnostic = true → allowed ⟨[], diagnostic⟩

section Items

variable {resolve : Resolve}

/-- Converted values leave what finding the values leaves. -/
theorem converted_leaves (paths : ∀ path bindings, (resolve path bindings).Leaves allowed)
    (path : String) (convert : Value → α) :
    (perCombination fun bindings => do return convert (← resolve path bindings)).Leaves
      allowed := by
  -- Neither the choice of keys nor the conversion is reported.
  refine .bind .get fun stack => .lift (.mapM (fun index => ?_) _)
  refine .bind (.ofExcept _ _) fun bindings _ => ?_
  exact (paths path bindings).bind fun _ _ => .pure _

theorem everywhere_leaves (text : String) : (everywhere text).Leaves allowed :=
  .bind .get fun _ => .pure _

theorem loopDomain_leaves (paths : ∀ path bindings, (resolve path bindings).Leaves allowed)
    (source : String) : (loopDomain resolve source).Leaves allowed := by
  -- Neither keys nor their absence are reported.
  refine .bind (.lift (paths source [])) fun value => ?_
  split
  · exact .pure _
  · exact .throw _

/-- Entering a loop leaves a diagnostic if it succeeds. -/
theorem enter_leaves (own : AllowsOwn allowed) (name : String) (domain : List Key) :
    (Walk.enter name domain).Leaves allowed := by
  -- A loop that is refused is not reported.
  refine .bind .get fun stack => .bind (.lift ?_) fun inner => .set inner
  exact .bind (.ofExcept _ _) fun _ _ => .bind (.log (own _ rfl)) fun _ _ => .pure _

/-- Leaving a loop leaves a diagnostic if it succeeds. -/
theorem leave_leaves (own : AllowsOwn allowed) (name : String) :
    (Walk.leave name).Leaves allowed := by
  refine .bind .get fun stack => .bind (.lift ?_) fun outer => .set outer
  exact .bind (.ofExcept _ _) fun _ _ => .bind (.log (own _ rfl)) fun _ _ => .pure _

mutual

/-- An item leaves what entering and leaving loops and finding values leaves. -/
theorem renderItem_leaves (own : AllowsOwn allowed)
    (paths : ∀ path bindings, (resolve path bindings).Leaves allowed) :
    ∀ item, (renderItem resolve item).Leaves allowed
  | .text content => by
    rw [renderItem]
    -- Texts are the same in all combinations, and nothing is logged for them.
    exact everywhere_leaves content
  | .escaped character => by
    rw [renderItem]
    exact everywhere_leaves _
  | .reference path => by
    rw [renderItem]
    exact converted_leaves paths path Value.text
  | .whenTrue condition body => by
    -- The body is rendered before its condition is tested, whatever comes of the test.
    rw [renderItem]
    exact .bind (renderItems_leaves own paths body) fun _ =>
      .bind (converted_leaves paths condition Value.isTruthy) fun _ => .pure _
  | .whenFalse condition body => by
    rw [renderItem]
    exact .bind (renderItems_leaves own paths body) fun _ =>
      .bind (converted_leaves paths condition Value.isTruthy) fun _ => .pure _
  | .choice condition accepted refused => by
    rw [renderItem]
    exact .bind (renderItems_leaves own paths accepted) fun _ =>
      .bind (renderItems_leaves own paths refused) fun _ =>
        .bind (converted_leaves paths condition Value.isTruthy) fun _ => .pure _
  | .loop index source body => by
    rw [renderItem]
    -- The body may fail, and the loop is left all the same.
    exact .bind .get fun _ => .bind (loopDomain_leaves paths source) fun _ =>
      .bind (enter_leaves own _ _) fun _ =>
        .bind (.attempt (renderItems_leaves own paths body)) fun _ =>
          .bind (leave_leaves own _) fun _ => .bind (.lift (.ofExcept _ _)) fun _ => .pure _

/-- Items leave what entering and leaving loops and finding values leaves. -/
theorem renderItems_leaves (own : AllowsOwn allowed)
    (paths : ∀ path bindings, (resolve path bindings).Leaves allowed) :
    ∀ items, (renderItems resolve items).Leaves allowed
  | [] => by
    rw [renderItems]
    exact everywhere_leaves ""
  | item :: rest => by
    rw [renderItems]
    -- Each item leaves its entries, and putting the texts together leaves none.
    exact .bind (renderItem_leaves own paths item) fun _ =>
      .bind (renderItems_leaves own paths rest) fun _ => .pure _

end

end Items

section Paths

variable {scope : Scope} {nested : NestedRender}

/-- A variable leaves what its template leaves, and a diagnostic if that fails. -/
theorem renderVariable_leaves (inside : ∀ source, (nested source).Leaves allowed)
    (failures : ∀ source error, (nested source).outcome = .error error →
      error.isFatal = false → allowed ⟨[], .variableFailed scope.nested.depth error⟩)
    (source : String) : (renderVariable scope nested source).Leaves allowed := by
  refine Rendering.Leaves.bind ?_ fun result found => ?_
  · -- The template is rendered first, and its failure is kept as a result.
    exact Logged.Leaves.bind (inside source) (Logged.Leaves.pure _)
  · have same : (nested source).outcome = result := by
      injection found
    split
    · exact .pure _
    · exact .pure _
    · rename_i error
      split
      · -- A fatal error is handed on without a word.
        exact .throw _
      · rename_i harmless
        have fits := failures source error same (by simpa using harmless)
        exact .bind (.log fits) fun _ _ => .pure _

/-- A path leaves what its variable leaves, or a diagnostic of its own. -/
theorem resolve_leaves (own : AllowsOwn allowed)
    (inside : ∀ source, (nested source).Leaves allowed)
    (failures : ∀ source error, (nested source).outcome = .error error →
      error.isFatal = false → allowed ⟨[], .variableFailed scope.nested.depth error⟩)
    (path : String) (bindings : Bindings) :
    (resolve scope nested path bindings).Leaves allowed := by
  unfold resolve
  split
  · -- A place in the payload that does not exist is reported.
    unfold resolveData
    split
    · exact .pure _
    · exact .bind (.log (own _ rfl)) fun _ _ => .pure _
  split
  · unfold resolveVariable
    split
    · exact .throw _
    · split
      · exact renderVariable_leaves inside failures _
      · -- A variable that does not exist is reported.
        exact .bind (.log (own _ rfl)) fun _ _ => .pure _
  split
  · -- A loop that does not exist is not reported.
    unfold resolveKey
    split
    · exact .throw _
    · split
      · exact .pure _
      · exact .pure _
  · exact .throw _

end Paths

end Render

end PayloadTemplate
