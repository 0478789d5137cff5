import PayloadTemplate.Loop.Stack
import PayloadTemplate.Template.Item

/-!
Rendering the items of a template for all combinations of its loops at once.  Each item has one
text for every combination of the loops around it, in the order of the combinations; a loop joins
the texts of its own keys.
-/

namespace PayloadTemplate.Render

open Loop Template

/-- A computation over the active loops.  The loops it leaves are kept even if it fails. -/
abbrev Walk := ExceptT RenderError (StateT Stack Logged)

namespace Walk

variable {α : Type}

/-- A computation that does not touch the loops. -/
def lift (computation : Rendering α) : Walk α :=
  ExceptT.mk (StateT.lift computation.run)

/-- Runs a computation and hands on its failure as a result. -/
def attempt (computation : Walk α) : Walk (Except RenderError α) :=
  ExceptT.mk (Except.ok <$> computation.run)

/-- Begins a loop. -/
def enter (name : String) (domain : List Key) : Walk Unit := do
  let inner ← lift ((← get).enter name domain)
  set inner

/-- Ends the innermost loop. -/
def leave (name : String) : Walk Unit := do
  let outer ← lift ((← get).leave name)
  set outer

/-- Runs a computation that starts outside all loops. -/
def start (computation : Walk α) : Rendering α :=
  ExceptT.mk (Prod.fst <$> computation.run.run Stack.empty)

end Walk

/-- The value of a path under the keys of one combination. -/
abbrev Resolve := String → Bindings → Rendering Value

/-- Computes one result for every combination, in order. -/
def perCombination {α : Type} (compute : Bindings → Rendering α) : Walk (List α) := do
  let stack ← get
  Walk.lift <| (List.range stack.combinationCount).mapM fun index => do
    compute (← Rendering.ofExcept .loop (stack.bindingsFor index))

/-- Whether the value of a path counts as true, for every combination. -/
def truthTable (resolve : Resolve) (condition : String) : Walk (List Bool) :=
  perCombination fun bindings => do return (← resolve condition bindings).isTruthy

/-- The same text for every combination. -/
def everywhere (text : String) : Walk (List String) := do
  return List.replicate (← get).combinationCount text

/-- The keys that a loop ranges over.  They do not depend on the loops around it. -/
def loopDomain (resolve : Resolve) (source : String) : Walk (List Key) := do
  let value ← Walk.lift (resolve source [])
  match domainOf value with
  | some domain => return domain
  | none => throw (.resolution (.notIterable source value.kind))

/-- Neighbouring texts in runs of the same size, of which the last one may be shorter. -/
def runs (size : Nat) (texts : List String) : List (List String) :=
  if size = 0 ∨ texts = [] then []
  else texts.take size :: runs size (texts.drop size)
termination_by texts.length
decreasing_by
  rename_i ongoing
  have : texts.length ≠ 0 := fun empty => ongoing (.inr (List.eq_nil_of_length_eq_zero empty))
  simp only [List.length_drop]
  omega

/-- Joins the texts of each run.  Runs without a size are not among the texts, so there are as many
empty texts instead as there should be runs. -/
def joinRuns (count size : Nat) (texts : List String) : List String :=
  if size = 0 then List.replicate count ""
  else (runs size texts).map String.join

mutual

/-- The texts of an item.  Every body is rendered, whatever its condition says. -/
def renderItem (resolve : Resolve) : Item → Walk (List String)
  | .text content => everywhere content
  | .escaped character => everywhere character.toString
  | .reference path => perCombination fun bindings => do return (← resolve path bindings).text
  | .whenTrue condition body => do
    let texts ← renderItems resolve body
    let truths ← truthTable resolve condition
    return List.zipWith (fun truth text => if truth then text else "") truths texts
  | .whenFalse condition body => do
    let texts ← renderItems resolve body
    let truths ← truthTable resolve condition
    return List.zipWith (fun truth text => if truth then "" else text) truths texts
  | .choice condition accepted refused => do
    let acceptedTexts ← renderItems resolve accepted
    let refusedTexts ← renderItems resolve refused
    let truths ← truthTable resolve condition
    return List.zipWith (fun truth texts => if truth then texts.1 else texts.2) truths
      (acceptedTexts.zip refusedTexts)
  | .loop index source body => do
    let count := (← get).combinationCount
    let domain ← loopDomain resolve source
    Walk.enter index.toString domain
    let texts ← Walk.attempt (renderItems resolve body)
    -- The loop ends even when its body has failed.
    Walk.leave index.toString
    return joinRuns count domain.length (← Walk.lift (Rendering.ofExcept id texts))

/-- The texts of items one after the other. -/
def renderItems (resolve : Resolve) : List Item → Walk (List String)
  | [] => everywhere ""
  | item :: rest => do
    let texts ← renderItem resolve item
    let later ← renderItems resolve rest
    return List.zipWith (· ++ ·) texts later

end

end PayloadTemplate.Render
