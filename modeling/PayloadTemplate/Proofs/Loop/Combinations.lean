import PayloadTemplate.Loop.Stack

/-! Entering and leaving loops, and how the combinations of a loop extend those around it. -/

namespace PayloadTemplate.Loop

/-- A checked product is the product of its factors. -/
theorem checkedTimes_eq_some_iff {left right product : Nat} :
    checkedTimes left right = some product ↔
      left * right = product ∧ left * right < wordValues := by
  -- The product is returned exactly when the bound holds.
  simp only [checkedTimes, fitsWord, decide_eq_true_eq, Option.ite_none_right_eq_some,
    Option.some.injEq]
  exact And.comm

/-- One key for each loop, under the name of its index. -/
inductive Assigns : List ActiveLoop → Bindings → Prop where
  /-- Outside all loops there is nothing to choose. -/
  | nil : Assigns [] []
  /-- Each loop may take any of its keys. -/
  | cons {loop : ActiveLoop} {outer : List ActiveLoop} {key : Key} {bindings : Bindings}
      (member : key ∈ loop.domain) (others : Assigns outer bindings) :
      Assigns (loop :: outer) ((loop.name, key) :: bindings)

namespace Stack

/-- A loop multiplies the number of combinations by the number of its keys. -/
theorem combinationCount_inside (loop : ActiveLoop) (stack : Stack) :
    (Stack.mk (loop :: stack.loops)).combinationCount = loop.size * stack.combinationCount := rfl

/-- The checked count, where there is one, is the number of combinations. -/
theorem checkedCount_eq_some {loops : List ActiveLoop} {count : Nat}
    (counted : checkedCount loops = some count) : (Stack.mk loops).combinationCount = count := by
  -- Each loop multiplies both counts by the same size.
  induction loops generalizing count with
  | nil => simpa [checkedCount, combinationCount] using counted
  | cons loop outer ih =>
    simp only [checkedCount, Option.bind_eq_bind, Option.bind_eq_some_iff] at counted
    obtain ⟨outerCount, outerCounted, product⟩ := counted
    rw [combinationCount_inside loop ⟨outer⟩, ih outerCounted, Nat.mul_comm]
    exact (checkedTimes_eq_some_iff.mp product).1

/-- Inside loops that are countable, a further loop is exactly when all their combinations are. -/
theorem checkedCount_isSome_iff {loop : ActiveLoop} {outer : List ActiveLoop}
    (countable : (checkedCount outer).isSome) :
    (checkedCount (loop :: outer)).isSome ↔
      (Stack.mk (loop :: outer)).combinationCount < wordValues := by
  -- The product is checked against the bound only here.
  obtain ⟨count, counted⟩ := Option.isSome_iff_exists.mp countable
  have exact := checkedCount_eq_some counted
  rw [checkedCount, counted, combinationCount_inside loop ⟨outer⟩, exact, Nat.mul_comm]
  simp [checkedTimes, fitsWord]

/-- A loop can be entered exactly when its name is new and the combinations stay countable. -/
theorem push_eq_ok_iff {stack inner : Stack} {name : String} {domain : List Key} :
    stack.push name domain = .ok inner ↔
      stack.isActive name = false ∧
        (checkedCount (⟨name, domain⟩ :: stack.loops)).isSome ∧
          inner = ⟨⟨name, domain⟩ :: stack.loops⟩ := by
  -- Both refusals are ruled out one after the other.
  unfold push
  split
  · rename_i active
    simp [active]
  · rename_i inactive
    split
    · -- Without a count nothing is pushed.
      rename_i overflow
      simp_all
    · rename_i countable
      have inactive : stack.isActive name = false := by simpa using inactive
      have countable : (checkedCount (⟨name, domain⟩ :: stack.loops)).isSome := by
        simpa [Option.isSome_iff_ne_none] using countable
      simp only [inactive, countable, true_and, Except.ok.injEq]
      exact eq_comm

/-- A loop is refused because its name is taken, or else because of its combinations. -/
theorem push_eq_error_iff {stack : Stack} {name : String} {domain : List Key}
    {fault : LoopError} :
    stack.push name domain = .error fault ↔
      stack.isActive name = true ∧ fault = .alreadyActive name ∨
        stack.isActive name = false ∧
          (checkedCount (⟨name, domain⟩ :: stack.loops)).isSome = false ∧
            fault = .tooManyCombinations name := by
  -- The name is looked at first.
  unfold push
  split
  · rename_i active
    simp only [active, Except.error.injEq, true_and, Bool.true_eq_false, false_and, or_false]
    exact eq_comm
  · rename_i inactive
    have inactive : stack.isActive name = false := by simpa using inactive
    split
    · rename_i overflow
      simp only [Option.isNone_iff_eq_none] at overflow
      simp only [inactive, overflow, Option.isSome_none, Except.error.injEq, Bool.false_eq_true,
        false_and, false_or, true_and]
      exact eq_comm
    · -- With a new name and a count there is no error.
      rename_i countable
      have countable : (checkedCount (⟨name, domain⟩ :: stack.loops)).isSome = true := by
        simpa [Option.isSome_iff_ne_none] using countable
      simp [inactive, countable]

/-- Leaving the loop that was entered last restores the loops around it. -/
theorem pop_entered (name : String) (domain : List Key) (stack : Stack) :
    (Stack.mk (⟨name, domain⟩ :: stack.loops)).pop name = .ok stack := by
  -- The innermost loop has the name that is asked for.
  simp [pop]

/-- Division separates a position from the number that it is the last digit of. -/
theorem lastDigit_split {size position : Nat} (number : Nat) (within : position < size) :
    (number * size + position) % size = position ∧
      (number * size + position) / size = number := by
  -- The position is less than the size, so it is the whole remainder.
  rw [Nat.mul_comm]
  constructor
  · rw [Nat.mul_add_mod, Nat.mod_eq_of_lt within]
  · rw [Nat.mul_add_div (Nat.zero_lt_of_lt within), Nat.div_eq_of_lt within, Nat.add_zero]

/-- A last digit does not lead beyond the numbers that begin with the same digits. -/
theorem lastDigit_lt {size position number count : Nat} (below : number < count)
    (within : position < size) : number * size + position < size * count := by
  calc number * size + position < number * size + size := by omega
    _ = size * (number + 1) := by rw [Nat.mul_succ, Nat.mul_comm]
    _ ≤ size * count := Nat.mul_le_mul_left size below

/-- Under a key of the innermost loop, a combination binds that key and continues outside. -/
theorem digits_key (loop : ActiveLoop) (outer : List ActiveLoop) (number : Nat)
    {position : Nat} {key : Key} (found : loop.domain[position]? = some key) :
    digits (loop :: outer) (number * loop.size + position) =
      (loop.name, key) :: digits outer number := by
  -- The position is the last digit, so division and remainder separate it from the rest.
  have within : position < loop.size := (List.getElem?_eq_some_iff.mp found).1
  obtain ⟨last, others⟩ := lastDigit_split number within
  simp only [digits, last, others, found]

/-- Below the number of combinations, the innermost loop has a key at the last digit, and the other
digits stand for a combination of the loops around it. -/
theorem digits_cons {loop : ActiveLoop} {outer : List ActiveLoop} {number : Nat}
    (below : number < (Stack.mk (loop :: outer)).combinationCount) :
    number / loop.size < (Stack.mk outer).combinationCount ∧ number % loop.size < loop.size ∧
      ∃ key, loop.domain[number % loop.size]? = some key ∧
        digits (loop :: outer) number = (loop.name, key) :: digits outer (number / loop.size) := by
  -- The loop has the last digit of the number, and the others have what is left of it.
  rw [combinationCount_inside loop ⟨outer⟩] at below
  have within : number % loop.size < loop.size := Nat.mod_lt number (Nat.pos_of_lt_mul_right below)
  have located := List.getElem?_eq_getElem (l := loop.domain) (i := number % loop.size) within
  refine ⟨Nat.div_lt_of_lt_mul below, within, _, located, ?_⟩
  simp only [digits, located]

/-- The numbers of the combinations pick every choice of one key for each loop, and nothing else. -/
theorem assigns_iff {loops : List ActiveLoop} {bindings : Bindings} :
    Assigns loops bindings ↔
      ∃ number, number < (Stack.mk loops).combinationCount ∧ digits loops number = bindings := by
  constructor
  · intro assigns
    -- The position of each key is one digit of the number.
    induction assigns with
    | nil => exact ⟨0, Nat.one_pos, rfl⟩
    | @cons loop outer key bindings member _ ih =>
      obtain ⟨number, below, rfl⟩ := ih
      obtain ⟨position, located⟩ := List.getElem?_of_mem member
      have within : position < loop.size := (List.getElem?_eq_some_iff.mp located).1
      refine ⟨number * loop.size + position, ?_, digits_key loop outer number located⟩
      rw [combinationCount_inside loop ⟨outer⟩]
      exact lastDigit_lt below within
  · -- Each digit of the number is the position of a key.
    intro numbered
    obtain ⟨number, below, rfl⟩ := numbered
    induction loops generalizing number with
    | nil => exact .nil
    | cons loop outer ih =>
      obtain ⟨outside, _, key, located, bound⟩ := digits_cons below
      rw [bound]
      exact .cons (List.mem_of_getElem? located) (ih _ outside)

/-- Exactly the numbers below the number of combinations have bindings. -/
theorem bindingsFor_of_lt {stack : Stack} {index : Nat} (below : index < stack.combinationCount) :
    stack.bindingsFor index = .ok (digits stack.loops index) := by
  -- The guard is the bound itself.
  simp [bindingsFor, below]

end Stack

end PayloadTemplate.Loop
