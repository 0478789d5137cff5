import Mathlib.Data.List.Forall2
import Mathlib.Data.List.Lex
import Mathlib.Data.Set.Function
import PayloadTemplate.Proofs.Render.Nesting

/-!
The combinations of the active loops are their keys' positions in lexicographic order, the outermost
loop first.  A combination's number has these positions as its digits.
-/

namespace PayloadTemplate.Loop

/-! ## Positions and the numbers that they spell -/

/-- One position in the domain of each loop. -/
def Selects (loops : List ActiveLoop) (positions : List Nat) : Prop :=
  List.Forall₂ (fun loop position => position < loop.size) loops positions

/-- The number that positions spell in a mixed radix: the size of each loop is the radix of its
position, and the last position counts ones. -/
def numberOf (loops : List ActiveLoop) (positions : List Nat) : Nat :=
  (loops.zip positions).foldl (fun number digit => number * digit.1.size + digit.2) 0

/-- The positions that a number stands for, the last of them in the domain of the first loop. -/
def positionsAt : List ActiveLoop → Nat → List Nat
  | [], _ => []
  | loop :: outer, number => positionsAt outer (number / loop.size) ++ [number % loop.size]

/-- A name is bound to the key at each loop's position. -/
def Binds (bindings : Bindings) (loops : List ActiveLoop) (positions : List Nat) : Prop :=
  List.Forall₂
    (fun loop position => ∃ key, loop.domain[position]? = some key ∧
      bindings.lookup loop.name = some key) loops positions

/-- Behind the positions of other loops, a position counts ones. -/
theorem numberOf_append_singleton {loops : List ActiveLoop} {positions : List Nat}
    (selects : Selects loops positions) (loop : ActiveLoop) (position : Nat) :
    numberOf (loops ++ [loop]) (positions ++ [position]) =
      numberOf loops positions * loop.size + position := by
  rw [numberOf, List.zip_append selects.length_eq, List.foldl_append]
  rfl

/-- Positions of loops and of one more inside them are positions of the ones and one of the
other. -/
theorem selects_append_singleton_iff {loops : List ActiveLoop} {loop : ActiveLoop}
    {positions : List Nat} :
    Selects (loops ++ [loop]) positions ↔
      ∃ outer position, positions = outer ++ [position] ∧ Selects loops outer ∧
        position < loop.size := by
  constructor
  · intro selects
    -- From the end, the position of the last loop comes first.
    have reversed := List.forall₂_reverse_iff.mpr selects
    rw [List.reverse_append, List.reverse_singleton, List.singleton_append,
      List.forall₂_cons_left_iff] at reversed
    obtain ⟨position, others, within, rest, same⟩ := reversed
    refine ⟨others.reverse, position, ?_, ?_, within⟩
    · rw [← List.reverse_cons, ← same, List.reverse_reverse]
    · rw [← List.reverse_reverse loops]
      exact List.forall₂_reverse_iff.mpr rest
  · rintro ⟨outer, position, rfl, selects, within⟩
    exact List.rel_append selects (.cons within .nil)

/-- Among positions of as many loops, the last ones decide where the others are the same. -/
theorem lex_append_singleton {first second : List Nat} (lengths : first.length = second.length)
    {low high : Nat} (before : List.Lex (· < ·) first second ∨ first = second ∧ low < high) :
    List.Lex (· < ·) (first ++ [low]) (second ++ [high]) := by
  rcases before with earlier | ⟨rfl, last⟩
  · -- The first difference stays where it is.
    induction earlier with
    | nil => simp at lengths
    | rel smaller => exact .rel smaller
    | cons _ ih => exact .cons (ih (Nat.succ.inj lengths))
  · exact List.Lex.append_left (· < ·) (.rel last) first

namespace Stack

/-! ## The positions of a combination -/

section Positions

variable {loop : ActiveLoop} {loops outer : List ActiveLoop} {number : Nat}

/-- The positions of a combination are positions in the domains. -/
theorem selects_positionsAt (below : number < (Stack.mk loops).combinationCount) :
    Selects loops.reverse (positionsAt loops number) := by
  -- The last position belongs to the innermost loop, and the others to the loops around it.
  induction loops generalizing number with
  | nil => exact .nil
  | cons loop outer ih =>
    obtain ⟨outside, within, _⟩ := digits_cons below
    rw [List.reverse_cons, selects_append_singleton_iff]
    exact ⟨_, _, rfl, ih outside, within⟩

/-- The positions of a combination spell its number. -/
theorem numberOf_positionsAt (below : number < (Stack.mk loops).combinationCount) :
    numberOf loops.reverse (positionsAt loops number) = number := by
  -- Quotient and remainder by the size of the innermost loop give the number back.
  induction loops generalizing number with
  | nil => exact (Nat.lt_one_iff.mp below).symm
  | cons loop outer ih =>
    obtain ⟨outside, _⟩ := digits_cons below
    rw [List.reverse_cons, positionsAt, numberOf_append_singleton (selects_positionsAt outside),
      ih outside, Nat.mul_comm]
    exact Nat.div_add_mod number loop.size

/-- Positions spell the number of a combination, which has no others. -/
theorem positionsAt_numberOf {positions : List Nat} (selects : Selects loops.reverse positions) :
    numberOf loops.reverse positions < (Stack.mk loops).combinationCount ∧
      positionsAt loops (numberOf loops.reverse positions) = positions := by
  -- From the last position on: it is the remainder, and the number of the others is the quotient.
  induction loops generalizing positions with
  | nil =>
    cases selects
    exact ⟨Nat.one_pos, rfl⟩
  | cons loop outer ih =>
    rw [List.reverse_cons, selects_append_singleton_iff] at selects
    obtain ⟨front, position, rfl, selects, within⟩ := selects
    obtain ⟨below, again⟩ := ih selects
    rw [List.reverse_cons, numberOf_append_singleton selects]
    generalize numberOf outer.reverse front = number at below again
    constructor
    · rw [combinationCount_inside loop ⟨outer⟩]
      exact lastDigit_lt below within
    · -- Splitting the number again gives the same position and the same rest.
      obtain ⟨last, others⟩ := lastDigit_split number within
      rw [positionsAt, last, others, again]

/-- Later combinations have greater positions, the outermost loop being compared first. -/
theorem positionsAt_lex {first second : Nat} (before : first < second)
    (below : second < (Stack.mk loops).combinationCount) :
    List.Lex (· < ·) (positionsAt loops first) (positionsAt loops second) := by
  induction loops generalizing first second with
  | nil =>
    have none : second < 1 := below
    omega
  | cons loop outer ih =>
    obtain ⟨outside, _⟩ := digits_cons below
    -- Both have one position for each loop.
    have lengths : (positionsAt outer (first / loop.size)).length =
        (positionsAt outer (second / loop.size)).length := by
      have outsideFirst := (digits_cons (Nat.lt_trans before below)).1
      rw [← (selects_positionsAt outsideFirst).length_eq, ← (selects_positionsAt outside).length_eq]
    refine lex_append_singleton lengths ?_
    -- Either the outer loops have moved on, or the innermost one has.
    have quotients : first / loop.size ≤ second / loop.size :=
      Nat.div_le_div_right (Nat.le_of_lt before)
    rcases Nat.lt_or_eq_of_le quotients with later | same
    · exact .inl (ih later outside)
    · have whole := Nat.div_add_mod first loop.size
      have wholeSecond := Nat.div_add_mod second loop.size
      rw [same] at whole ⊢
      exact .inr ⟨rfl, by omega⟩

/-- The numbers of the combinations stand for all positions, each for others. -/
theorem positionsAt_bijOn (loops : List ActiveLoop) :
    Set.BijOn (positionsAt loops) {number | number < (Stack.mk loops).combinationCount}
      {positions | Selects loops.reverse positions} := by
  -- One direction gives that no two numbers share positions, the other that none are missing.
  refine ⟨fun number below => selects_positionsAt below, ?_, ?_⟩
  · intro first below second belowSecond same
    rw [← numberOf_positionsAt below, same, numberOf_positionsAt belowSecond]
  · intro positions selects
    obtain ⟨below, again⟩ := positionsAt_numberOf selects
    exact ⟨_, below, again⟩

/-- A combination binds the name of each loop to the key at its position, whatever other names have
been bound further inside. -/
theorem binds_digits (inner : Bindings) (distinct : (loops.map ActiveLoop.name).Nodup)
    (fresh : ∀ loop ∈ loops, inner.lookup loop.name = none)
    (below : number < (Stack.mk loops).combinationCount) :
    Binds (inner ++ digits loops number) loops.reverse (positionsAt loops number) := by
  induction loops generalizing number inner with
  | nil => exact .nil
  | cons loop outer ih =>
    obtain ⟨outside, _, key, located, bound⟩ := digits_cons below
    rw [List.map_cons, List.nodup_cons] at distinct
    rw [List.forall_mem_cons] at fresh
    -- A loop further out has another name, so its key is not hidden by this one.
    have apart : ∀ other ∈ outer, (inner ++ [(loop.name, key)]).lookup other.name = none := by
      intro other member
      have differs : (other.name == loop.name) = false :=
        beq_false_of_ne fun same => distinct.1 (same ▸ List.mem_map_of_mem member)
      simp [fresh.2 other member, List.lookup_append, List.lookup_cons, differs]
    -- The outer loops are bound behind the key of this one.
    have around := ih (inner ++ [(loop.name, key)]) distinct.2 apart outside
    rw [List.append_assoc] at around
    rw [bound, List.reverse_cons, positionsAt]
    refine List.rel_append around (.cons ⟨key, located, ?_⟩ .nil)
    simp [List.lookup_append, fresh.1]

/-- A combination binds the names of the active loops and no others. -/
theorem digits_lookup_isSome_iff (below : number < (Stack.mk loops).combinationCount)
    (name : String) :
    ((digits loops number).lookup name).isSome ↔ (Stack.mk loops).isActive name := by
  induction loops generalizing number with
  | nil => rfl
  | cons loop outer ih =>
    obtain ⟨outside, _, key, _, bound⟩ := digits_cons below
    have around := ih outside
    rw [isActive, List.any_eq_true, List.lookup_isSome_iff] at around ⊢
    rw [bound, List.exists_mem_cons_iff, List.exists_mem_cons_iff]
    -- The innermost name is that of the first binding.
    refine or_congr ?_ around
    rw [beq_iff_eq, beq_iff_eq]
    exact eq_comm

end Positions

/-- Exactly the numbers that are no combination's are refused. -/
theorem bindingsFor_refused_iff {stack : Stack} {index : Nat} :
    (∃ fault, stack.bindingsFor index = .error fault) ↔ stack.combinationCount ≤ index := by
  -- The index is compared with the count, and nothing else can fail.
  unfold bindingsFor
  split
  · rename_i below
    simpa using below
  · rename_i beyond
    simpa using beyond

end Stack

end PayloadTemplate.Loop

namespace PayloadTemplate.Render

open Loop

/-- Whatever loops have been asked for, exactly the numbers from the number of combinations on have
no bindings, and with a loop without keys no number has any.  Every other number binds the names of
the active loops and no others, each to the key at one position of its domain.  From the outermost
loop to the innermost, these positions are the only ones that spell the number in a mixed radix.  So
the numbers stand for all choices of positions, each for one, and later numbers for
lexicographically greater ones. -/
theorem combinations_enumerate_positions (requests : List LoopRequest) :
    let stack := afterRequests requests Stack.empty
    let loops := stack.loops.reverse
    (∀ number, (∃ fault, stack.bindingsFor number = .error fault) ↔
        stack.combinationCount ≤ number) ∧
      (∀ loop ∈ loops, loop.domain = [] → ∀ number,
        ∃ fault, stack.bindingsFor number = .error fault) ∧
      (∀ number, number < stack.combinationCount →
        (∀ loop ∈ loops, 0 < loop.size) ∧
        (∃ bindings, stack.bindingsFor number = .ok bindings ∧
          (∀ name, (bindings.lookup name).isSome ↔ stack.isActive name) ∧
          Binds bindings loops (positionsAt stack.loops number)) ∧
        numberOf loops (positionsAt stack.loops number) = number ∧
        ∀ positions, Selects loops positions → numberOf loops positions = number →
          positions = positionsAt stack.loops number) ∧
      Set.BijOn (positionsAt stack.loops) {number | number < stack.combinationCount}
        {positions | Selects loops positions} ∧
      ∀ first second, first < second → second < stack.combinationCount →
        List.Lex (· < ·) (positionsAt stack.loops first) (positionsAt stack.loops second) := by
  intro stack loops
  have orderly : stack.Orderly := afterRequests_orderly requests Stack.empty_orderly
  -- A loop without keys leaves no combination, neither here nor in what follows.
  have keyed : ∀ loop ∈ loops, loop.domain = [] → stack.combinationCount = 0 :=
    fun loop member keyless =>
      Stack.combinationCount_eq_zero (List.mem_reverse.mp member) keyless
  refine ⟨fun number => Stack.bindingsFor_refused_iff, ?_, ?_, Stack.positionsAt_bijOn _,
    fun first second => Stack.positionsAt_lex⟩
  · intro loop member keyless number
    rw [Stack.bindingsFor_refused_iff, keyed loop member keyless]
    exact Nat.zero_le number
  · intro number below
    refine ⟨fun loop member => ?_, ⟨_, Stack.bindingsFor_of_lt below, fun name => ?_, ?_⟩,
      Stack.numberOf_positionsAt below, fun positions selects spelled => ?_⟩
    · -- Since there is this combination, every size may be divided by.
      refine Nat.pos_of_ne_zero fun keyless => ?_
      have none := keyed loop member (List.eq_nil_of_length_eq_zero keyless)
      omega
    · exact Stack.digits_lookup_isSome_iff below name
    · -- No binding hides another, as the names are distinct.
      exact Stack.binds_digits [] orderly.distinct (fun _ _ => rfl) below
    · -- Positions are read off the number that they spell.
      rw [← spelled, (Stack.positionsAt_numberOf selects).2]

/-- Two loops, over two keys and over three, have six combinations.  The fifth of them binds both
names to the second key, and its positions come behind those of the third. -/
theorem combinations_enumerate_positions_grid :
    let stack := afterRequests grid Stack.empty
    let loops := stack.loops.reverse
    (∃ fault, stack.bindingsFor 6 = .error fault) ∧
      stack.bindingsFor 4 = .ok [("j", .index 1), ("i", .key "b")] ∧
      Binds [("j", .index 1), ("i", .key "b")] loops [1, 1] ∧
      numberOf loops [1, 1] = 4 ∧
      (∀ positions, Selects loops positions → numberOf loops positions = 4 →
        positions = [1, 1]) ∧
      List.Lex (· < ·) (positionsAt stack.loops 2) [1, 1] := by
  obtain ⟨refused, _, numbered, _, ordered⟩ := combinations_enumerate_positions grid
  -- The outer loop has two keys and the inner one three.
  have below : 4 < (afterRequests grid Stack.empty).combinationCount := by
    rw [afterRequests_grid]
    decide
  have positions : positionsAt (afterRequests grid Stack.empty).loops 4 = [1, 1] := by
    rw [afterRequests_grid]
    decide
  have enumerated : (afterRequests grid Stack.empty).bindingsFor 4 =
      .ok [("j", .index 1), ("i", .key "b")] := by
    rw [afterRequests_grid]
    decide
  obtain ⟨_, ⟨bindings, found, _, binds⟩, spelled, only⟩ := numbered 4 below
  -- These are the bindings that the number is known to have.
  obtain rfl : bindings = [("j", .index 1), ("i", .key "b")] :=
    Except.ok.inj (found.symm.trans enumerated)
  refine ⟨(refused 6).mpr ?_, enumerated, positions ▸ binds, positions ▸ spelled,
    positions ▸ only, positions ▸ ordered 2 4 (by decide) below⟩
  rw [afterRequests_grid]
  decide

end PayloadTemplate.Render
