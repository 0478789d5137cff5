import PayloadTemplate.Journal
import PayloadTemplate.Loop.Key
import PayloadTemplate.Word

/-!
The loops around the item being rendered.  One combination picks a key for each loop; combinations
are numbered with the keys of the innermost loop changing fastest.
-/

namespace PayloadTemplate.Loop

/-- An active loop: the name of its index and the keys it ranges over. -/
structure ActiveLoop where
  /-- The name of the index. -/
  name : String
  /-- The keys in order. -/
  domain : List Key
  deriving DecidableEq, Repr

/-- The number of keys that a loop ranges over. -/
def ActiveLoop.size (loop : ActiveLoop) : Nat :=
  loop.domain.length

/-- The active loops, innermost first. -/
structure Stack where
  /-- The loops. -/
  loops : List ActiveLoop
  deriving DecidableEq, Repr

/-- A product, if it fits into 64 bits. -/
def checkedTimes (left right : Nat) : Option Nat :=
  if fitsWord (left * right) then some (left * right) else none

/-- The product of the loops' sizes, outermost first, if it stays within bounds on the way. -/
def checkedCount : List ActiveLoop → Option Nat
  | [] => some 1
  | loop :: outer => checkedCount outer >>= (checkedTimes · loop.size)

namespace Stack

/-- No active loops. -/
def empty : Stack := ⟨[]⟩

/-- The number of active loops. -/
def depth (stack : Stack) : Nat :=
  stack.loops.length

/-- Whether a loop of that name is active. -/
def isActive (stack : Stack) (name : String) : Bool :=
  stack.loops.any (·.name == name)

/-- The number of combinations of keys: the product of the loops' sizes. -/
def combinationCount (stack : Stack) : Nat :=
  stack.loops.foldr (fun loop count => loop.size * count) 1

/-- The number of keys of the innermost loop, or one when no loop is active. -/
def innermostSize (stack : Stack) : Nat :=
  match stack.loops with
  | [] => 1
  | loop :: _ => loop.size

/-- Adds an innermost loop.  Its name must be new and the combinations must stay countable. -/
def push (stack : Stack) (name : String) (domain : List Key) : Except LoopError Stack :=
  if stack.isActive name then
    .error (.alreadyActive name)
  else if (checkedCount (⟨name, domain⟩ :: stack.loops)).isNone then
    .error (.tooManyCombinations name)
  else
    .ok ⟨⟨name, domain⟩ :: stack.loops⟩

/-- Removes the innermost loop, which must have the given name. -/
def pop (stack : Stack) (name : String) : Except LoopError Stack :=
  match stack.loops with
  | loop :: outer =>
    if loop.name = name then .ok ⟨outer⟩
    else if stack.isActive name then .error (.notInnermost name)
    else .error (.notActive name)
  | [] => .error (.notActive name)

/-- The keys of a combination, innermost loop first.  The number is read in a mixed radix, the
sizes of the loops, with the innermost loop as its last digit. -/
def digits : List ActiveLoop → Nat → Bindings
  | [], _ => []
  | loop :: outer, number =>
    match loop.domain[number % loop.size]? with
    | some key => (loop.name, key) :: digits outer (number / loop.size)
    | none => digits outer (number / loop.size)

/-- The bindings of a combination. -/
def bindingsFor (stack : Stack) (index : Nat) : Except LoopError Bindings :=
  if index < stack.combinationCount then .ok (digits stack.loops index)
  else .error (.noSuchCombination index stack.combinationCount)

/-- Begins a loop. -/
def enter (stack : Stack) (name : String) (domain : List Key) : Rendering Stack := do
  let inner ← Rendering.ofExcept .loop (stack.push name domain)
  Rendering.log (.enteringLoop name domain.length)
  return inner

/-- Ends the innermost loop. -/
def leave (stack : Stack) (name : String) : Rendering Stack := do
  let outer ← Rendering.ofExcept .loop (stack.pop name)
  Rendering.log (.leavingLoop name)
  return outer

end Stack

end PayloadTemplate.Loop
