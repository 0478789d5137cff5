import PayloadTemplate.Json.Writer

/-! What loops range over: positions of a sequence or keys of a map. -/

namespace PayloadTemplate.Loop

/-- One element of a loop's domain. -/
inductive Key where
  /-- A position in a sequence. -/
  | index (position : Nat)
  /-- A key of a map. -/
  | key (name : String)
  deriving DecidableEq, Repr

/-- The value of a reference to a loop's current key. -/
def Key.toValue : Key → Value
  | .index position => PayloadTemplate.toValue position
  | .key name => .string name

/-- A key as text. -/
def Key.text : Key → String
  | .index position => String.ofList (Json.naturalChars position)
  | .key name => name

/-- The current key of each active loop, by the name of its index. -/
abbrev Bindings := List (String × Key)

/-- The bindings sorted by name. -/
def Bindings.sorted (bindings : Bindings) : Bindings :=
  bindings.mergeSort fun left right => !(decide (right.1 < left.1))

/-- The domain of a loop over a value: the positions of a sequence, the keys of a map in order, and
nothing for any other value. -/
def domainOf : Value → Option (List Key)
  | .sequence items => some ((List.range items.length).map .index)
  | .map entries => some (entries.map fun entry => .key entry.1)
  | _ => none

end PayloadTemplate.Loop
