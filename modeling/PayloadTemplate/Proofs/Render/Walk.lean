import PayloadTemplate.Proofs.Loop.Combinations
import PayloadTemplate.Proofs.Outcome
import PayloadTemplate.Render.Engine

/-! Rendering keeps the active loops, so that what items come to depends on the loops alone. -/

namespace PayloadTemplate.Render

open Loop Template

namespace Walk

variable {α β : Type}

/-- What a computation comes to under the given loops, and the loops that it leaves. -/
def result (computation : Walk α) (stack : Stack) : Except RenderError α × Stack :=
  (computation.run.run stack).value

/-- What a computation comes to under the given loops. -/
def outcome (computation : Walk α) (stack : Stack) : Except RenderError α :=
  (computation.result stack).1

/-- A computation leaves the loops that it found, also when it fails. -/
def KeepsLoops (computation : Walk α) : Prop :=
  -- The loops are left beside the outcome, so a failure has them too.
  ∀ stack, (computation.result stack).2 = stack

@[simp] theorem result_get (stack : Stack) :
    (get : Walk Stack).result stack = (.ok stack, stack) := rfl

@[simp] theorem result_lift (computation : Rendering α) (stack : Stack) :
    (Walk.lift computation).result stack = (computation.outcome, stack) := rfl

@[simp] theorem result_attempt (computation : Walk α) (stack : Stack) :
    (Walk.attempt computation).result stack =
      (.ok (computation.outcome stack), (computation.result stack).2) := rfl

/-- A failure ends a sequence and leaves the loops as they are at that moment. -/
theorem result_bind (first : Walk α) (next : α → Walk β) (stack : Stack) :
    (first >>= next).result stack =
      match first.result stack with
      | (.ok value, left) => (next value).result left
      | (.error error, left) => (.error error, left) := by
  -- Both sides look at the value of the first computation.
  simp only [result, ExceptT.run_bind, StateT.run_bind, Logged.value_bind]
  cases (first.run.run stack).value with
  | mk found left => cases found <;> rfl

/-- After a computation that keeps the loops, a sequence goes on under the same loops. -/
theorem result_bind_of_keepsLoops {first : Walk α} (keeps : first.KeepsLoops)
    (next : α → Walk β) (stack : Stack) :
    (first >>= next).result stack =
      match first.outcome stack with
      | .ok value => (next value).result stack
      | .error error => (.error error, stack) := by
  -- The loops left by the first computation are those it found.
  have kept := keeps stack
  rw [result_bind, outcome]
  generalize first.result stack = found at kept
  obtain ⟨found, left⟩ := found
  subst kept
  cases found <;> rfl

/-- After a computation that keeps the loops, only its outcome matters. -/
theorem outcome_bind_of_keepsLoops {first : Walk α} (keeps : first.KeepsLoops)
    (next : α → Walk β) (stack : Stack) :
    (first >>= next).outcome stack =
      first.outcome stack >>= fun value => (next value).outcome stack := by
  -- The loops are the same for both computations.
  rw [outcome, result_bind_of_keepsLoops keeps]
  cases first.outcome stack <;> rfl

/-- Entering a loop adds it to the active loops, or fails and leaves them as they are. -/
theorem result_enter (name : String) (domain : List Key) (stack : Stack) :
    (Walk.enter name domain).result stack =
      match stack.push name domain with
      | .ok inner => (.ok (), inner)
      | .error fault => (.error (.loop fault), stack) := by
  -- The loops are replaced only after the new ones have been found.
  rw [Walk.enter, result_bind, result_get]
  simp only [result_bind, result_lift, Stack.enter, Rendering.outcome_bind,
    Rendering.outcome_ofExcept, Rendering.outcome_log, Rendering.outcome_pure]
  cases stack.push name domain <;> rfl

/-- Leaving the loop that was entered last restores the loops around it. -/
theorem result_leave_entered (name : String) (domain : List Key) (stack : Stack) :
    (Walk.leave name).result ⟨⟨name, domain⟩ :: stack.loops⟩ = (.ok (), stack) := by
  -- The innermost loop has the name that is asked for.
  rw [Walk.leave, result_bind, result_get]
  simp only [result_bind, result_lift, Stack.leave, Rendering.outcome_bind,
    Rendering.outcome_ofExcept, Rendering.outcome_log, Rendering.outcome_pure,
    Stack.pop_entered]
  rfl

namespace KeepsLoops

theorem pure (value : α) : (Pure.pure value : Walk α).KeepsLoops := fun _ => rfl

theorem throw (error : RenderError) : (MonadExcept.throw error : Walk α).KeepsLoops :=
  fun _ => rfl

theorem get : (MonadState.get : Walk Stack).KeepsLoops := fun _ => rfl

theorem lift (computation : Rendering α) : (Walk.lift computation).KeepsLoops := fun _ => rfl

/-- Computations that keep the loops may follow each other. -/
theorem bind {first : Walk α} {next : α → Walk β} (keeps : first.KeepsLoops)
    (later : ∀ value, (next value).KeepsLoops) : (first >>= next).KeepsLoops := by
  -- Whether or not the first computation fails, the loops stay.
  intro stack
  rw [result_bind_of_keepsLoops keeps]
  cases first.outcome stack with
  | error error => rfl
  | ok value => exact later value stack

end KeepsLoops

end Walk

/-- Looking at each combination does not touch the loops. -/
theorem perCombination_keepsLoops {α : Type} (compute : Bindings → Rendering α) :
    (perCombination compute).KeepsLoops :=
  .bind .get fun _ => .lift _

/-- Testing a condition does not touch the loops. -/
theorem truthTable_keepsLoops (resolve : Resolve) (condition : String) :
    (truthTable resolve condition).KeepsLoops :=
  perCombination_keepsLoops _

/-- Repeating a text does not touch the loops. -/
theorem everywhere_keepsLoops (text : String) : (everywhere text).KeepsLoops :=
  .bind .get fun _ => .pure _

/-- Finding out what a loop ranges over does not touch the loops. -/
theorem loopDomain_keepsLoops (resolve : Resolve) (source : String) :
    (loopDomain resolve source).KeepsLoops := by
  -- The domain is either returned or refused.
  refine .bind (.lift _) fun value => ?_
  split
  · exact .pure _
  · exact .throw _

/-- The keys that a loop over a source ranges over, apart from the loops around it. -/
def domainAt (resolve : Resolve) (source : String) : Except RenderError (List Key) := do
  let value ← (resolve source []).outcome
  match domainOf value with
  | some domain => return domain
  | none => throw (.resolution (.notIterable source value.kind))

/-- What a loop ranges over does not depend on the loops around it. -/
theorem loopDomain_outcome (resolve : Resolve) (source : String) (stack : Stack) :
    (loopDomain resolve source).outcome stack = domainAt resolve source := by
  -- Resolution gives the same value on both sides.
  rw [loopDomain, Walk.outcome_bind_of_keepsLoops (.lift _), domainAt]
  simp only [Walk.outcome, Walk.result_lift]
  refine bind_congr fun value => ?_
  cases domainOf value <;> rfl

/-- A loop with a body that keeps its loops enters it, renders the body and leaves it again. -/
theorem result_loop {resolve : Resolve} {body : List Item}
    (keeps : (renderItems resolve body).KeepsLoops) (index : Char) (source : String)
    (stack : Stack) :
    (renderItem resolve (.loop index source body)).result stack =
      (do
        let domain ← domainAt resolve source
        let inner ← (stack.push index.toString domain).mapError .loop
        let texts ← (renderItems resolve body).outcome inner
        return joinRuns stack.combinationCount domain.length texts, stack) := by
  -- Entering may fail before anything is changed; leaving finds the loop that was entered.
  rw [renderItem, Walk.result_bind, Walk.result_get]
  dsimp only
  generalize index.toString = name
  rw [Walk.result_bind_of_keepsLoops (loopDomain_keepsLoops resolve source), loopDomain_outcome]
  cases domainAt resolve source with
  | error error => rfl
  | ok domain =>
    dsimp only
    rw [Walk.result_bind, Walk.result_enter]
    cases pushed : stack.push name domain with
    | error fault => simp [pushed, Bind.bind, Except.bind]
    | ok inner =>
      -- The loops behind the body are those before it, so the innermost one is the one to leave.
      obtain ⟨_, _, rfl⟩ := Stack.push_eq_ok_iff.mp pushed
      simp only [Walk.result_bind, Walk.result_attempt, keeps _, Walk.result_leave_entered,
        Walk.result_lift, Rendering.outcome_ofExcept]
      simp only [Bind.bind, Except.bind, pushed, mapError_ok]
      cases (renderItems resolve body).outcome ⟨⟨name, domain⟩ :: stack.loops⟩ <;> rfl

mutual

/-- An item leaves the loops that it found. -/
theorem renderItem_keepsLoops (resolve : Resolve) :
    ∀ item, (renderItem resolve item).KeepsLoops
  | .text content => by
    rw [renderItem]
    exact everywhere_keepsLoops content
  | .escaped character => by
    rw [renderItem]
    exact everywhere_keepsLoops _
  | .reference path => by
    rw [renderItem]
    exact perCombination_keepsLoops _
  | .whenTrue condition body => by
    rw [renderItem]
    -- The branches are rendered one after the other, and each of them keeps the loops.
    exact .bind (renderItems_keepsLoops resolve body) fun _ =>
      .bind (truthTable_keepsLoops resolve condition) fun _ => .pure _
  | .whenFalse condition body => by
    rw [renderItem]
    exact .bind (renderItems_keepsLoops resolve body) fun _ =>
      .bind (truthTable_keepsLoops resolve condition) fun _ => .pure _
  | .choice condition accepted refused => by
    rw [renderItem]
    exact .bind (renderItems_keepsLoops resolve accepted) fun _ =>
      .bind (renderItems_keepsLoops resolve refused) fun _ =>
        .bind (truthTable_keepsLoops resolve condition) fun _ => .pure _
  | .loop index source body => by
    -- The loop that the item enters is left again.
    intro stack
    rw [result_loop (renderItems_keepsLoops resolve body)]

/-- Items leave the loops that they found. -/
theorem renderItems_keepsLoops (resolve : Resolve) :
    ∀ items, (renderItems resolve items).KeepsLoops
  | [] => by
    rw [renderItems]
    exact everywhere_keepsLoops ""
  | item :: rest => by
    rw [renderItems]
    -- The texts are put together without a look at the loops.
    exact .bind (renderItem_keepsLoops resolve item) fun _ =>
      .bind (renderItems_keepsLoops resolve rest) fun _ => .pure _

end

/-! ## The outcomes of items, one equation for each kind -/

section Outcomes

variable (resolve : Resolve) (stack : Stack)

/-- A repeated text never fails. -/
theorem everywhere_outcome (text : String) :
    (everywhere text).outcome stack = .ok (List.replicate stack.combinationCount text) := rfl

/-- Each combination is looked at under its own bindings. -/
theorem perCombination_outcome {α : Type} (compute : Bindings → Rendering α) :
    (perCombination compute).outcome stack =
      (List.range stack.combinationCount).mapM fun number =>
        (compute (Stack.digits stack.loops number)).outcome := by
  -- Every number in the range has bindings, so none of them is refused.
  show Rendering.outcome (List.mapM _ _) = _
  rw [Rendering.outcome_mapM]
  refine mapM_congr_of_mem fun number member => ?_
  rw [Stack.bindingsFor_of_lt (List.mem_range.mp member)]
  rfl

theorem renderItem_text_outcome (content : String) :
    (renderItem resolve (.text content)).outcome stack =
      .ok (List.replicate stack.combinationCount content) := by
  rw [renderItem, everywhere_outcome]

theorem renderItem_escaped_outcome (character : Char) :
    (renderItem resolve (.escaped character)).outcome stack =
      .ok (List.replicate stack.combinationCount character.toString) := by
  rw [renderItem, everywhere_outcome]

/-- A condition is tested under the loops that the bodies before it have been rendered under. -/
theorem tested_outcome {α β : Type} {bodies : Walk α} (keeps : bodies.KeepsLoops)
    (condition : String) (pick : List Bool → α → β) :
    (do
      let texts ← bodies
      let truths ← truthTable resolve condition
      return pick truths texts : Walk β).outcome stack = (do
        let texts ← bodies.outcome stack
        let truths ← (truthTable resolve condition).outcome stack
        return pick truths texts) := by
  -- Neither the bodies nor the test leave other loops behind.
  rw [Walk.outcome_bind_of_keepsLoops keeps]
  refine bind_congr fun texts => ?_
  rw [Walk.outcome_bind_of_keepsLoops (truthTable_keepsLoops resolve condition)]
  rfl

theorem renderItem_whenTrue_outcome (condition : String) (body : List Item) :
    (renderItem resolve (.whenTrue condition body)).outcome stack = do
      let texts ← (renderItems resolve body).outcome stack
      let truths ← (truthTable resolve condition).outcome stack
      return List.zipWith (fun truth text => if truth then text else "") truths texts := by
  rw [renderItem]
  exact tested_outcome resolve stack (renderItems_keepsLoops resolve body) condition _

theorem renderItem_whenFalse_outcome (condition : String) (body : List Item) :
    (renderItem resolve (.whenFalse condition body)).outcome stack = do
      let texts ← (renderItems resolve body).outcome stack
      let truths ← (truthTable resolve condition).outcome stack
      return List.zipWith (fun truth text => if truth then "" else text) truths texts := by
  rw [renderItem]
  exact tested_outcome resolve stack (renderItems_keepsLoops resolve body) condition _

theorem renderItem_choice_outcome (condition : String) (accepted refused : List Item) :
    (renderItem resolve (.choice condition accepted refused)).outcome stack = do
      let acceptedTexts ← (renderItems resolve accepted).outcome stack
      let refusedTexts ← (renderItems resolve refused).outcome stack
      let truths ← (truthTable resolve condition).outcome stack
      return List.zipWith (fun truth texts => if truth then texts.1 else texts.2) truths
        (acceptedTexts.zip refusedTexts) := by
  -- The second body is rendered under the same loops as the first.
  rw [renderItem, Walk.outcome_bind_of_keepsLoops (renderItems_keepsLoops resolve accepted)]
  refine bind_congr fun acceptedTexts => ?_
  exact tested_outcome resolve stack (renderItems_keepsLoops resolve refused) condition _

theorem renderItem_loop_outcome (index : Char) (source : String) (body : List Item) :
    (renderItem resolve (.loop index source body)).outcome stack = do
      let domain ← domainAt resolve source
      let inner ← (stack.push index.toString domain).mapError .loop
      let texts ← (renderItems resolve body).outcome inner
      return joinRuns stack.combinationCount domain.length texts := by
  rw [Walk.outcome, result_loop (renderItems_keepsLoops resolve body)]

theorem renderItems_nil_outcome :
    (renderItems resolve []).outcome stack =
      .ok (List.replicate stack.combinationCount "") := by
  rw [renderItems, everywhere_outcome]

theorem renderItems_cons_outcome (item : Item) (rest : List Item) :
    (renderItems resolve (item :: rest)).outcome stack = do
      let texts ← (renderItem resolve item).outcome stack
      let later ← (renderItems resolve rest).outcome stack
      return List.zipWith (· ++ ·) texts later := by
  -- The later items are rendered under the same loops as the first.
  rw [renderItems, Walk.outcome_bind_of_keepsLoops (renderItem_keepsLoops resolve item)]
  refine bind_congr fun texts => ?_
  rw [Walk.outcome_bind_of_keepsLoops (renderItems_keepsLoops resolve rest)]
  rfl

end Outcomes

end PayloadTemplate.Render
