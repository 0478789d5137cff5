import Mathlib.Data.List.Basic
import PayloadTemplate.Entries

/-! What bindings hold after keys have been bound. -/

namespace PayloadTemplate.Entries

variable {α : Type} {key other : String} {entries : List (String × α)}

/-- A new key is bound at the end. -/
theorem put_of_not_mem {key : String} {entries : List (String × α)}
    (fresh : key ∉ entries.map Prod.fst) (value : α) :
    put key value entries = entries ++ [(key, value)] := by
  -- The key stands nowhere, so the end is reached.
  induction entries with
  | nil => rfl
  | cons entry rest ih =>
    rw [List.map_cons, List.mem_cons, not_or] at fresh
    rw [put, if_neg fun same => fresh.1 same.symm, ih fresh.2]
    rfl

/-- Bindings of distinct keys are kept as they are. -/
theorem ofBindings_eq_self {bindings : List (String × α)}
    (distinct : (bindings.map Prod.fst).Nodup) : ofBindings bindings = bindings := by
  -- The bindings are added behind those before them.
  have general : ∀ entries : List (String × α), ((entries ++ bindings).map Prod.fst).Nodup →
      bindings.foldl (fun entries binding => put binding.1 binding.2 entries) entries =
        entries ++ bindings := by
    clear distinct
    induction bindings with
    | nil => simp
    | cons binding rest ih =>
      intro entries distinct
      have fresh : binding.1 ∉ entries.map Prod.fst := by
        rw [List.map_append, List.nodup_append] at distinct
        intro member
        exact distinct.2.2 _ member _ (by simp) rfl
      rw [List.foldl_cons, put_of_not_mem fresh, ih _ (by simpa using distinct)]
      simp
  exact general [] distinct

/-- The first binding gives a key's value if it is one of that key. -/
theorem lookup_cons (value : α) :
    ((key, value) :: entries).lookup other =
      if key = other then some value else entries.lookup other := by
  -- Looking up compares in the other direction.
  by_cases same : key = other
  · simp [same]
  · simp [same, List.lookup_cons, beq_false_of_ne (Ne.symm same)]

/-- A key without a binding has no value. -/
theorem lookup_eq_none_iff : entries.lookup key = none ↔ key ∉ entries.map Prod.fst := by
  -- Nothing is found if no binding has the key.
  rw [List.lookup_eq_none_iff]
  simp only [bne_iff_ne, List.mem_map, not_exists, not_and]
  exact forall₂_congr fun entry _ => ne_comm

/-- Of distinct keys each has the value that it is bound to anywhere. -/
theorem lookup_eq_some_iff (distinct : (entries.map Prod.fst).Nodup) {value : α} :
    entries.lookup key = some value ↔ (key, value) ∈ entries := by
  -- The key is that of the first binding or of one behind it, not of both.
  induction entries with
  | nil => simp
  | cons entry rest ih =>
    obtain ⟨first, current⟩ := entry
    rw [List.map_cons, List.nodup_cons] at distinct
    rw [lookup_cons, List.mem_cons, Prod.mk.injEq, ← ih distinct.2]
    split
    · -- The first binding is the only one of the key, so the value must be its own.
      rename_i same
      subst same
      simp [lookup_eq_none_iff.mpr distinct.1, eq_comm]
    · rename_i other
      simp [Ne.symm other]

/-- A key that is bound has its new value, and the others have theirs. -/
theorem lookup_put (value : α) :
    (put key value entries).lookup other =
      if key = other then some value else entries.lookup other := by
  -- The binding changes where the key stands first, or it is added at the end.
  induction entries with
  | nil => exact lookup_cons value
  | cons entry rest ih =>
    obtain ⟨first, current⟩ := entry
    rw [put]
    by_cases found : first = key
    · subst found
      -- The binding in front is replaced, and those behind it cannot be seen.
      simp only [if_pos, lookup_cons]
      split <;> rfl
    · rw [if_neg found, lookup_cons, lookup_cons, ih]
      split
      · rename_i here
        rw [if_neg fun same => found (here.trans same.symm)]
      · rfl

/-- Binding a key adds no other key. -/
theorem mem_keys_put (value : α) :
    other ∈ (put key value entries).map Prod.fst ↔
      other = key ∨ other ∈ entries.map Prod.fst := by
  induction entries with
  | nil => simp [put]
  | cons entry rest ih =>
    obtain ⟨first, current⟩ := entry
    rw [put]
    by_cases found : first = key
    · simp [found]
    · rw [if_neg found, List.map_cons, List.mem_cons, ih, List.map_cons, List.mem_cons]
      exact or_left_comm

end PayloadTemplate.Entries
