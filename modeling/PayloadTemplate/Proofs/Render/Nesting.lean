import PayloadTemplate.Proofs.Render.Walk

/-!
Loops that are begun and ended in any order, some requests being refused.  The names of the active
loops stay distinct and their combinations stay countable, so that counting them never overflows.
-/

namespace PayloadTemplate.Loop.Stack

/-- A loop can be ended exactly when it is the innermost one. -/
theorem pop_eq_ok_iff {stack outer : Stack} {name : String} :
    stack.pop name = .ok outer ↔ ∃ domain, stack.loops = ⟨name, domain⟩ :: outer.loops := by
  obtain ⟨loops⟩ := stack
  cases loops with
  | nil => simp [pop]
  | cons loop others =>
    obtain ⟨other, domain⟩ := loop
    by_cases same : other = name
    · -- The innermost loop has the name that is asked for.
      subst same
      simp only [pop, if_pos, Except.ok.injEq, List.cons.injEq, ActiveLoop.mk.injEq, true_and]
      constructor
      · rintro rfl
        exact ⟨domain, rfl, rfl⟩
      · rintro ⟨_, _, rfl⟩
        rfl
    · -- A loop around it cannot be ended before it, and other names are unknown.
      have refused : ∀ outer, (Stack.mk (⟨other, domain⟩ :: others)).pop name ≠ .ok outer := by
        intro outer popped
        simp only [pop, if_neg same] at popped
        split at popped <;> cases popped
      simp only [refused, List.cons.injEq, ActiveLoop.mk.injEq, same, false_and, exists_false]

/-- What has been counted with a check fits into a word. -/
theorem combinationCount_lt {loops : List ActiveLoop}
    (counted : checkedCount loops = some (Stack.mk loops).combinationCount) :
    (Stack.mk loops).combinationCount < wordValues := by
  cases loops with
  | nil => decide
  | cons loop outer =>
    -- The last product of the count has been checked.
    rw [checkedCount, Option.bind_eq_bind, Option.bind_eq_some_iff] at counted
    obtain ⟨count, _, checked⟩ := counted
    obtain ⟨product, below⟩ := checkedTimes_eq_some_iff.mp checked
    rwa [product] at below

/-- A loop without keys leaves no combination. -/
theorem combinationCount_eq_zero {stack : Stack} {loop : ActiveLoop}
    (member : loop ∈ stack.loops) (keyless : loop.domain = []) : stack.combinationCount = 0 := by
  obtain ⟨loops⟩ := stack
  induction loops with
  | nil => cases member
  | cons first outer ih =>
    rw [combinationCount_inside first ⟨outer⟩]
    rcases List.mem_cons.mp member with rfl | further
    · -- Its own size is the factor zero.
      rw [ActiveLoop.size, keyless, List.length_nil, Nat.zero_mul]
    · rw [ih further, Nat.mul_zero]

/-- Active loops with names of their own, whose sizes can be multiplied one after the other from
the outermost loop on without leaving the words. -/
structure Orderly (stack : Stack) : Prop where
  /-- No two loops have the same name. -/
  distinct : (stack.loops.map ActiveLoop.name).Nodup
  /-- The checked count is there, and it is the number of combinations. -/
  counted : checkedCount stack.loops = some stack.combinationCount

theorem empty_orderly : Orderly Stack.empty :=
  ⟨List.nodup_nil, rfl⟩

/-- The loops around a loop are orderly if they are so together with it. -/
theorem Orderly.outer {loop : ActiveLoop} {outer : List ActiveLoop}
    (orderly : Orderly ⟨loop :: outer⟩) : Orderly ⟨outer⟩ := by
  have distinct := orderly.distinct
  have counted := orderly.counted
  rw [List.map_cons, List.nodup_cons] at distinct
  -- The count of the outer loops is the one that the last size has been multiplied with.
  rw [checkedCount, Option.bind_eq_bind, Option.bind_eq_some_iff] at counted
  obtain ⟨count, outerCounted, _⟩ := counted
  refine ⟨distinct.2, ?_⟩
  rw [checkedCount_eq_some outerCounted]
  exact outerCounted

/-- No active loop has a name that is not active. -/
theorem isActive_eq_false_iff {stack : Stack} {name : String} :
    stack.isActive name = false ↔ name ∉ stack.loops.map ActiveLoop.name := by
  simp only [isActive, List.any_eq_false, beq_iff_eq, List.mem_map, not_exists, not_and]

/-- A loop that may be begun leaves the loops orderly. -/
theorem Orderly.push {stack inner : Stack} {name : String} {domain : List Key}
    (orderly : stack.Orderly) (pushed : stack.push name domain = .ok inner) : inner.Orderly := by
  obtain ⟨inactive, countable, rfl⟩ := push_eq_ok_iff.mp pushed
  constructor
  · -- The name is that of none of the loops around.
    rw [List.map_cons, List.nodup_cons]
    exact ⟨isActive_eq_false_iff.mp inactive, orderly.distinct⟩
  · -- The count has been checked together with the new size.
    obtain ⟨count, counted⟩ := Option.isSome_iff_exists.mp countable
    rw [checkedCount_eq_some counted]
    exact counted

/-- A loop that may be ended leaves the loops orderly. -/
theorem Orderly.pop {stack outer : Stack} {name : String} (orderly : stack.Orderly)
    (popped : stack.pop name = .ok outer) : outer.Orderly := by
  -- The loops below were pushed before the one that ends.
  obtain ⟨loops⟩ := stack
  obtain ⟨domain, rfl⟩ := pop_eq_ok_iff.mp popped
  exact orderly.outer

/-- Among orderly loops a new one is refused exactly for its name or for its combinations. -/
theorem Orderly.push_refused_iff {stack : Stack} (orderly : stack.Orderly) (name : String)
    (domain : List Key) :
    (∃ fault, stack.push name domain = .error fault) ↔
      stack.isActive name = true ∨ wordValues ≤ domain.length * stack.combinationCount := by
  -- The product with the new size is the only one that has not been checked before.
  have counted : (checkedCount stack.loops).isSome := by rw [orderly.counted]; rfl
  have countable : (checkedCount (⟨name, domain⟩ :: stack.loops)).isSome ↔
      domain.length * stack.combinationCount < wordValues := checkedCount_isSome_iff counted
  simp only [push_eq_error_iff]
  constructor
  · rintro ⟨fault, ⟨active, _⟩ | ⟨_, overflow, _⟩⟩
    · exact .inl active
    · refine .inr (Nat.le_of_not_lt fun below => ?_)
      rw [countable.mpr below] at overflow
      cases overflow
  · intro refused
    by_cases active : stack.isActive name = true
    · -- The name is compared before the combinations are counted.
      exact ⟨_, .inl ⟨active, rfl⟩⟩
    · have overflow := refused.resolve_left active
      have uncounted : ¬(checkedCount (⟨name, domain⟩ :: stack.loops)).isSome = true :=
        fun counted => Nat.not_lt_of_le overflow (countable.mp counted)
      exact ⟨_, .inr ⟨by simpa using active, by simpa using uncounted, rfl⟩⟩

/-- A loop is refused its end exactly when it is not the innermost one. -/
theorem pop_refused_iff (stack : Stack) (name : String) :
    (∃ fault, stack.pop name = .error fault) ↔
      stack.loops.head?.map ActiveLoop.name ≠ some name := by
  constructor
  · rintro ⟨fault, refused⟩ innermost
    obtain ⟨loop, head, rfl⟩ := Option.map_eq_some_iff.mp innermost
    obtain ⟨others, loops⟩ := List.head?_eq_some_iff.mp head
    -- The innermost loop would have been ended.
    have popped : stack.pop loop.name = .ok ⟨others⟩ := pop_eq_ok_iff.mpr ⟨loop.domain, loops⟩
    rw [popped] at refused
    cases refused
  · intro other
    cases popped : stack.pop name with
    | error fault => exact ⟨fault, rfl⟩
    | ok outer =>
      obtain ⟨domain, loops⟩ := pop_eq_ok_iff.mp popped
      exact absurd (by rw [loops]; rfl) other

end PayloadTemplate.Loop.Stack

namespace PayloadTemplate.Render

open Loop

/-- Ending a loop takes it from the active loops, or fails and leaves them as they are. -/
theorem Walk.result_leave (name : String) (stack : Stack) :
    (Walk.leave name).result stack =
      match stack.pop name with
      | .ok outer => (.ok (), outer)
      | .error fault => (.error (.loop fault), stack) := by
  -- The loops are replaced only after the one to end has been found.
  rw [Walk.leave, Walk.result_bind, Walk.result_get]
  simp only [Walk.result_bind, Walk.result_lift, Stack.leave, Rendering.outcome_bind,
    Rendering.outcome_ofExcept, Rendering.outcome_log, Rendering.outcome_pure]
  cases stack.pop name <;> rfl

/-- A request to begin or to end a loop. -/
inductive LoopRequest where
  /-- Begins a loop over some keys. -/
  | enter (name : String) (domain : List Key)
  /-- Ends the loop of that name. -/
  | leave (name : String)
  deriving DecidableEq, Repr

namespace LoopRequest

/-- What a request does to the active loops. -/
def perform : LoopRequest → Walk Unit
  | .enter name domain => Walk.enter name domain
  | .leave name => Walk.leave name

/-- The loops that are active after a request. -/
def next (stack : Stack) (request : LoopRequest) : Stack :=
  (request.perform.result stack).2

/-- Whether a request fails. -/
def Refused (stack : Stack) (request : LoopRequest) : Prop :=
  ∃ error, (request.perform.result stack).1 = .error error

/-- The loops that a request asks for, or why there are none. -/
def wanted (stack : Stack) : LoopRequest → Except LoopError Stack
  | .enter name domain => stack.push name domain
  | .leave name => stack.pop name

variable {stack : Stack} {request : LoopRequest}

/-- A request is refused and changes nothing, or the loops are those that it asks for. -/
theorem perform_cases (stack : Stack) (request : LoopRequest) :
    ((∃ fault, request.wanted stack = .error fault) ∧ request.Refused stack ∧
        request.next stack = stack) ∨
      request.wanted stack = .ok (request.next stack) ∧ ¬request.Refused stack := by
  -- Both kinds of requests replace the loops only once they have new ones.
  have performed : request.perform.result stack =
      match request.wanted stack with
      | .ok later => (.ok (), later)
      | .error fault => (.error (.loop fault), stack) := by
    cases request with
    | enter name domain => exact Walk.result_enter name domain stack
    | leave name => exact Walk.result_leave name stack
  unfold Refused next
  rw [performed]
  cases request.wanted stack with
  | error fault => exact .inl ⟨⟨fault, rfl⟩, ⟨_, rfl⟩, rfl⟩
  | ok later => exact .inr ⟨rfl, nofun⟩

theorem refused_iff : request.Refused stack ↔ ∃ fault, request.wanted stack = .error fault := by
  -- A request fails exactly if its new loops do.
  rcases perform_cases stack request with ⟨failed, refused, _⟩ | ⟨granted, done⟩
  · exact ⟨fun _ => failed, fun _ => refused⟩
  · simp only [done, granted, reduceCtorEq, exists_false]

/-- A request that is refused changes nothing. -/
theorem next_of_refused (refused : request.Refused stack) : request.next stack = stack := by
  -- Without new loops, the ones before are left.
  rcases perform_cases stack request with ⟨_, _, same⟩ | ⟨_, done⟩
  · exact same
  · exact absurd refused done

/-- A request that is not refused gets the loops that it asks for. -/
theorem wanted_of_granted (granted : ¬request.Refused stack) :
    request.wanted stack = .ok (request.next stack) := by
  -- The request has put the new loops in place of those before.
  rcases perform_cases stack request with ⟨_, refused, _⟩ | ⟨wanted, _⟩
  · exact absurd refused granted
  · exact wanted

/-- A request that asks for loops gets them. -/
theorem next_of_wanted {later : Stack} (wanted : request.wanted stack = .ok later) :
    ¬request.Refused stack ∧ request.next stack = later := by
  -- What is wanted is one stack, so a failure has no part in it.
  rcases perform_cases stack request with ⟨⟨_, failed⟩, _⟩ | ⟨granted, done⟩
  · rw [wanted] at failed
    cases failed
  · rw [wanted, Except.ok.injEq] at granted
    exact ⟨done, granted.symm⟩

/-- Every request leaves the loops orderly, whether or not it is refused. -/
theorem next_orderly (orderly : stack.Orderly) (request : LoopRequest) :
    (request.next stack).Orderly := by
  -- A refused request changes nothing, and a granted one pushes or pops.
  by_cases refused : request.Refused stack
  · rwa [next_of_refused refused]
  · have granted := wanted_of_granted refused
    cases request with
    | enter name domain => exact orderly.push granted
    | leave name => exact orderly.pop granted

end LoopRequest

/-- The loops that are active after some requests.  One that is refused does not end the others. -/
def afterRequests (requests : List LoopRequest) (stack : Stack) : Stack :=
  requests.foldl LoopRequest.next stack

/-- Any requests leave the loops orderly. -/
theorem afterRequests_orderly (requests : List LoopRequest) {stack : Stack}
    (orderly : stack.Orderly) : (afterRequests requests stack).Orderly := by
  -- The loops are orderly after the first request, and from there on after the others.
  induction requests generalizing stack with
  | nil => exact orderly
  | cons request others ih => exact ih (LoopRequest.next_orderly orderly request)

/-- Whatever loops have been asked for, their names are distinct and the product of their sizes fits
into a word.  Multiplying the sizes as words, from the outermost loop on, never overflows and gives
this product: one without loops, and zero as soon as a loop has no keys.  To begin a loop is refused
exactly if its name is active or the product with its size would not fit, to end one exactly if it
is not the innermost one.  A refused request changes nothing.  A loop that has been begun is the
innermost one, with its name and its keys, and it can be ended, which restores the loops around
it. -/
theorem nested_loops_stay_countable (requests : List LoopRequest) :
    let stack := afterRequests requests Stack.empty
    (stack.loops.map ActiveLoop.name).Nodup ∧
      stack.combinationCount < wordValues ∧
      checkedCount stack.loops = some stack.combinationCount ∧
      (stack.loops = [] → stack.combinationCount = 1) ∧
      (∀ loop ∈ stack.loops, loop.domain = [] → stack.combinationCount = 0) ∧
      (∀ name domain, LoopRequest.Refused stack (.enter name domain) ↔
        stack.isActive name = true ∨ wordValues ≤ domain.length * stack.combinationCount) ∧
      (∀ name, LoopRequest.Refused stack (.leave name) ↔
        stack.loops.head?.map ActiveLoop.name ≠ some name) ∧
      (∀ request : LoopRequest, request.Refused stack → request.next stack = stack) ∧
      ∀ name domain, ¬LoopRequest.Refused stack (.enter name domain) →
        let inner := LoopRequest.next stack (.enter name domain)
        inner.loops = ⟨name, domain⟩ :: stack.loops ∧
          ¬LoopRequest.Refused inner (.leave name) ∧
          LoopRequest.next inner (.leave name) = stack := by
  intro stack
  -- Every request has left the loops orderly.
  have orderly : stack.Orderly := afterRequests_orderly requests Stack.empty_orderly
  refine ⟨orderly.distinct, Stack.combinationCount_lt orderly.counted, orderly.counted, ?_,
    fun loop member keyless => Stack.combinationCount_eq_zero member keyless, ?_, ?_,
    fun request refused => LoopRequest.next_of_refused refused, ?_⟩
  · -- The product of no sizes is one.
    intro none
    rw [Stack.combinationCount, none]
    rfl
  · -- A request fails exactly where there are no loops of the kind that it asks for.
    intro name domain
    rw [LoopRequest.refused_iff]
    exact orderly.push_refused_iff name domain
  · intro name
    rw [LoopRequest.refused_iff]
    exact Stack.pop_refused_iff stack name
  · intro name domain granted inner
    -- The loop that has been begun is the innermost one.
    have pushed : stack.push name domain = .ok inner := LoopRequest.wanted_of_granted granted
    obtain ⟨_, _, entered⟩ := Stack.push_eq_ok_iff.mp pushed
    have popped : inner.pop name = .ok stack := by
      rw [entered]
      exact Stack.pop_entered name domain stack
    have wanted : LoopRequest.wanted inner (.leave name) = .ok stack := popped
    exact ⟨congrArg Stack.loops entered, LoopRequest.next_of_wanted wanted⟩

/-- Requests that begin two loops, over two keys and over three. -/
def grid : List LoopRequest :=
  [.enter "i" [.key "a", .key "b"], .enter "j" [.index 0, .index 1, .index 2]]

/-- Both loops are begun, the second one inside the first. -/
theorem afterRequests_grid : afterRequests grid Stack.empty =
    ⟨[⟨"j", [.index 0, .index 1, .index 2]⟩, ⟨"i", [.key "a", .key "b"]⟩]⟩ := by
  decide

/-- Inside two loops, neither a second loop of the outer name is begun nor the outer loop ended.  A
third loop is begun and ended again. -/
theorem nested_loops_stay_countable_grid :
    let stack := afterRequests grid Stack.empty
    stack.combinationCount = 6 ∧ checkedCount stack.loops = some 6 ∧
      LoopRequest.Refused stack (.enter "i" [.index 7]) ∧
      LoopRequest.Refused stack (.leave "i") ∧ LoopRequest.next stack (.leave "i") = stack ∧
      let inner := LoopRequest.next stack (.enter "k" [.index 7])
      inner.loops = ⟨"k", [.index 7]⟩ :: stack.loops ∧
        LoopRequest.next inner (.leave "k") = stack := by
  obtain ⟨_, _, counted, _, _, begun, ended, unchanged, restored⟩ :=
    nested_loops_stay_countable grid
  have count : (afterRequests grid Stack.empty).combinationCount = 6 := by
    rw [afterRequests_grid]
    rfl
  -- The second loop is innermost, so the first one cannot end yet.
  have refused : LoopRequest.Refused (afterRequests grid Stack.empty) (.leave "i") := by
    rw [ended, afterRequests_grid]
    decide
  -- The name of the third loop is new, and the combinations are far from too many.
  have granted :
      ¬LoopRequest.Refused (afterRequests grid Stack.empty) (.enter "k" [.index 7]) := by
    rw [begun, afterRequests_grid]
    decide
  obtain ⟨entered, _, left⟩ := restored "k" [.index 7] granted
  refine ⟨count, counted.trans (congrArg some count), ?_, refused, unchanged _ refused, entered,
    left⟩
  rw [begun, afterRequests_grid]
  decide

end PayloadTemplate.Render
