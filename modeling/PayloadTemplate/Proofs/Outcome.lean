import PayloadTemplate.Journal

/-! When computations that may fail succeed, apart from the diagnostics they leave. -/

namespace PayloadTemplate

section Except

variable {ε α β : Type}

/-- A value on its own is a result. -/
theorem pure_eq_ok_iff {value result : α} :
    (pure value : Except ε α) = .ok result ↔ value = result :=
  Except.ok.injEq value result |>.to_iff

/-- A sequence of two computations succeeds exactly when both do, one after the other. -/
theorem bind_eq_ok_iff {first : Except ε α} {next : α → Except ε β} {result : β} :
    first >>= next = .ok result ↔ ∃ value, first = .ok value ∧ next value = .ok result := by
  -- A failure of the first computation is the failure of both.
  cases first with
  | error fault => simp [Bind.bind, Except.bind]
  | ok value => simp [Bind.bind, Except.bind]

/-- A sequence of two computations has a result when the first has one and then the second. -/
theorem exists_bind_eq_ok_iff {first : Except ε α} {next : α → Except ε β} :
    (∃ result, first >>= next = .ok result) ↔
      ∃ value, first = .ok value ∧ ∃ result, next value = .ok result := by
  -- The result is that of the second computation.
  simp only [bind_eq_ok_iff]
  constructor
  · intro computed
    obtain ⟨result, value, computed, later⟩ := computed
    exact ⟨value, computed, result, later⟩
  · intro computed
    obtain ⟨value, computed, result, later⟩ := computed
    exact ⟨result, value, computed, later⟩

/-- A sequence of two computations fails when the first does, or else when the second does. -/
theorem bind_eq_error_iff {first : Except ε α} {next : α → Except ε β} {fault : ε} :
    first >>= next = .error fault ↔
      first = .error fault ∨ ∃ value, first = .ok value ∧ next value = .error fault := by
  -- The second computation is reached only with a result of the first.
  cases first with
  | error other => simp [Bind.bind, Except.bind]
  | ok value => simp [Bind.bind, Except.bind]

/-- What follows a computation matters for its results only. -/
theorem bind_congr_of_ok {first : Except ε α} {next other : α → Except ε β}
    (same : ∀ value, first = .ok value → next value = other value) :
    first >>= next = first >>= other := by
  -- A failure ends both before they differ.
  cases first with
  | error fault => rfl
  | ok value => exact same value rfl

/-- A converted result is there exactly when the result is. -/
theorem map_eq_ok_iff {first : Except ε α} {convert : α → β} {result : β} :
    first.map convert = .ok result ↔ ∃ value, first = .ok value ∧ convert value = result := by
  -- A failure has nothing to convert.
  cases first with
  | error fault => simp [Except.map]
  | ok value => simp [Except.map]

@[simp] theorem mapError_ok {ε' : Type} (rename : ε → ε') (result : α) :
    (Except.ok result : Except ε α).mapError rename = .ok result := rfl

@[simp] theorem mapError_error {ε' : Type} (rename : ε → ε') (fault : ε) :
    (Except.error fault : Except ε α).mapError rename = .error (rename fault) := rfl

/-- Renaming failures does not touch results. -/
theorem mapError_eq_ok_iff {ε' : Type} {first : Except ε α} {rename : ε → ε'} {result : α} :
    first.mapError rename = .ok result ↔ first = .ok result := by
  -- Failures stay failures.
  cases first with
  | error fault => simp
  | ok value => simp

/-- A renamed failure is that of a failure. -/
theorem mapError_eq_error_iff {ε' : Type} {first : Except ε α} {rename : ε → ε'} {fault : ε'} :
    first.mapError rename = .error fault ↔
      ∃ cause, first = .error cause ∧ rename cause = fault := by
  -- Results stay results.
  cases first with
  | error cause => simp
  | ok value => simp

/-- Computing a result for each element succeeds exactly when every element has its result. -/
theorem mapM_eq_ok_iff {compute : α → Except ε β} {elements : List α} {results : List β} :
    elements.mapM compute = .ok results ↔ elements.map compute = results.map .ok := by
  -- The first element fails or gives the first result; the rest is the same question.
  induction elements generalizing results with
  | nil => cases results <;> simp [Pure.pure, Except.pure]
  | cons element rest ih =>
    simp only [List.mapM_cons, bind_eq_ok_iff, ih, pure_eq_ok_iff]
    cases results with
    | nil => simp
    | cons result others =>
      simp only [List.cons.injEq, List.map_cons]
      constructor
      · -- Both the first result and the others have been computed.
        intro computed
        obtain ⟨_, computed, _, mapped, rfl, rfl⟩ := computed
        exact ⟨computed, mapped⟩
      · intro computed
        obtain ⟨computed, mapped⟩ := computed
        exact ⟨result, computed, others, mapped, rfl, rfl⟩

/-- Computing a result for each element fails only where it does for one of them. -/
theorem exists_of_mapM_eq_error {compute : α → Except ε β} {elements : List α} {fault : ε}
    (failed : elements.mapM compute = .error fault) :
    ∃ element ∈ elements, compute element = .error fault := by
  -- Either the first element fails or one of the others.
  induction elements with
  | nil => simp [Pure.pure, Except.pure] at failed
  | cons element rest ih =>
    simp only [List.mapM_cons, bind_eq_error_iff, Pure.pure, Except.pure, reduceCtorEq,
      and_false, exists_const, or_false] at failed
    rcases failed with first | ⟨_, _, later⟩
    · exact ⟨element, List.mem_cons_self, first⟩
    · obtain ⟨other, member, fails⟩ := ih later
      exact ⟨other, List.mem_cons_of_mem element member, fails⟩

/-- Only what is computed for the elements themselves matters. -/
theorem mapM_congr_of_mem {first second : α → Except ε β} {elements : List α}
    (same : ∀ element ∈ elements, first element = second element) :
    elements.mapM first = elements.mapM second := by
  -- The elements are taken one after the other on both sides.
  induction elements with
  | nil => rfl
  | cons element rest ih =>
    simp only [List.forall_mem_cons] at same
    rw [List.mapM_cons, List.mapM_cons, same.1, ih same.2]

/-- Results for all elements exist exactly when each element has one. -/
theorem exists_map_eq_iff {compute : α → Except ε β} {elements : List α} :
    (∃ results : List β, elements.map compute = results.map .ok) ↔
      ∀ element ∈ elements, ∃ result, compute element = .ok result := by
  -- The results are collected element by element.
  induction elements with
  | nil => simp
  | cons element rest ih =>
    simp only [List.forall_mem_cons, ← ih]
    constructor
    · intro mapped
      obtain ⟨results, mapped⟩ := mapped
      cases results with
      | nil => simp at mapped
      | cons result others =>
        simp only [List.map_cons, List.cons.injEq] at mapped
        exact ⟨⟨result, mapped.1⟩, ⟨others, mapped.2⟩⟩
    · -- Each element has a result of its own, and those behind it have a list of them.
      intro computed
      obtain ⟨⟨result, computed⟩, ⟨others, mapped⟩⟩ := computed
      exact ⟨result :: others, by simp [computed, mapped]⟩

end Except

namespace Rendering

variable {α β : Type}

@[simp] theorem outcome_pure (value : α) : (pure value : Rendering α).outcome = .ok value := rfl

@[simp] theorem outcome_throw (error : RenderError) :
    (throw error : Rendering α).outcome = .error error := rfl

@[simp] theorem outcome_log (diagnostic : Diagnostic) :
    (Rendering.log diagnostic).outcome = .ok () := rfl

@[simp] theorem outcome_ofExcept {ε : Type} (wrap : ε → RenderError) (result : Except ε α) :
    (Rendering.ofExcept wrap result).outcome = result.mapError wrap := rfl

@[simp] theorem outcome_within (depth : Nat) (computation : Rendering α) :
    (Rendering.within depth computation).outcome = computation.outcome := rfl

/-- Diagnostics aside, computations follow each other as their outcomes do. -/
@[simp] theorem outcome_bind (first : Rendering α) (next : α → Rendering β) :
    (first >>= next).outcome = first.outcome >>= fun value => (next value).outcome := by
  -- Both sides look at the value of the first computation.
  simp only [outcome, ExceptT.run_bind, Logged.value_bind]
  cases first.run.value <;> rfl

/-- The outcome of computing a result for each element. -/
theorem outcome_mapM (compute : α → Rendering β) (elements : List α) :
    (elements.mapM compute).outcome = elements.mapM fun element => (compute element).outcome := by
  -- The computations are run one after the other on both sides.
  induction elements with
  | nil => simp [Pure.pure, Except.pure, outcome, ExceptT.pure, ExceptT.run, ExceptT.mk]
  | cons element rest ih =>
    simp only [List.mapM_cons, outcome_bind, ih]
    rfl

end Rendering

namespace Template

/-- The items of a source, or why it has none. -/
def itemsOf (source : String) : Except RenderError (List Item) :=
  -- Faults of the scanner and of the parser are both reported as errors of the render.
  (tokenize source >>= build).outcome

/-- A source has items exactly when it has tokens and these fit together. -/
theorem itemsOf_eq_ok_iff {source : String} {items : List Item} :
    itemsOf source = .ok items ↔
      ∃ found, tokens source = .ok found ∧ parse found = .ok items := by
  -- The diagnostics in between do not fail.
  simp only [itemsOf, tokenize, build, Rendering.outcome_bind, Rendering.outcome_ofExcept,
    Rendering.outcome_log, Rendering.outcome_pure, bind_eq_ok_iff, mapError_eq_ok_iff,
    Except.ok.injEq, exists_const, true_and, exists_eq_right]

/-- A source has no items exactly when the scanner or the parser reports a fault, and that is then
what is reported of the source. -/
theorem itemsOf_eq_error_iff {source : String} {error : RenderError} :
    itemsOf source = .error error ↔
      (∃ fault, tokens source = .error fault ∧ .lexical fault = error) ∨
        ∃ found, tokens source = .ok found ∧ ∃ fault, parse found = .error fault ∧
          .parse fault = error := by
  -- The scanner and the parser each have errors of their own.
  simp only [itemsOf, tokenize, build, Rendering.outcome_bind, Rendering.outcome_ofExcept,
    Rendering.outcome_log, Rendering.outcome_pure, bind_eq_ok_iff, bind_eq_error_iff,
    mapError_eq_ok_iff, mapError_eq_error_iff, Except.ok.injEq, reduceCtorEq, and_false,
    exists_const, or_false, true_and, exists_eq_right]

/-- A source without items is reported as a fault of the scanner or of the parser. -/
theorem itemsOf_eq_error {source : String} {error : RenderError}
    (failed : itemsOf source = .error error) :
    (∃ fault, error = .lexical fault) ∨ ∃ fault, error = .parse fault := by
  -- A source is scanned and then parsed.
  rcases itemsOf_eq_error_iff.mp failed with ⟨fault, _, rfl⟩ | ⟨_, _, fault, _, rfl⟩
  · exact .inl ⟨fault, rfl⟩
  · exact .inr ⟨fault, rfl⟩

end Template

end PayloadTemplate
