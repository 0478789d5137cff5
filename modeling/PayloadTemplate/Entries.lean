/-! Bindings of distinct keys, in the order in which the keys first came up. -/

namespace PayloadTemplate.Entries

variable {α : Type}

/-- Binds a key to a value: in the place of its earlier binding, or else at the end. -/
def put (key : String) (value : α) : List (String × α) → List (String × α)
  | [] => [(key, value)]
  | (other, current) :: rest =>
    if other = key then (key, value) :: rest else (other, current) :: put key value rest

/-- Binds keys one after the other: a key keeps its first place and its last value. -/
def ofBindings (bindings : List (String × α)) : List (String × α) :=
  bindings.foldl (fun entries binding => put binding.1 binding.2 entries) []

end PayloadTemplate.Entries
