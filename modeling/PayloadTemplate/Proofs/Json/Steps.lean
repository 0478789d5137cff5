import PayloadTemplate.Proofs.Json.MirroredValues

/-! The bound on the steps of reading is never met, so reading means the same under all of them. -/

namespace PayloadTemplate.Json

variable {rules : Rules} {text rest : List Char}

/-! ## What is left to read -/

/-- No more is left than there was. -/
theorem readValue_length {steps depth : Nat} {value : Value}
    (read : readValue rules steps depth text = .ok (value, rest)) :
    rest.length ≤ text.length := by
  -- The simulation also says that what a reader leaves is no longer than what it was given.
  have mirrors := (readers_mirror rules steps).1 depth text
  rw [read] at mirrors
  exact mirrors.shorter

/-- Skipping spacing leaves no more than there was. -/
theorem skipSpacing_length (text : List Char) : (skipSpacing text).length ≤ text.length :=
  (List.dropWhile_suffix _).length_le

/-- Where neither the end of the text nor a closing character has been found, a comma has been taken
before what comes next. -/
theorem afterComma_of_front {α : Type} {absent : Fault} {closer : Char} {finished : List Char → α}
    {after : List Char → Except Fault α} {fault : Char → List Char → Fault} {next : α}
    (found : front absent (fun character rest =>
        if character = closer then .ok (finished rest)
        else if character = ',' then after rest
        else .error (fault character rest)) (skipSpacing text) = .ok next)
    (further : ∀ rest, finished rest ≠ next) :
    ∃ tail, tail.length < text.length ∧ after tail = .ok next := by
  -- The result is none of a closed list, so a comma was read, and it is one character.
  have spacing := skipSpacing_length text
  cases skipped : skipSpacing text with
  | nil => simp [skipped, front] at found
  | cons character tail =>
    rw [skipped] at found spacing
    dsimp only [front] at found
    split at found
    · exact absurd (Except.ok.inj found) (further tail)
    · split at found
      · exact ⟨tail, spacing, found⟩
      · cases found

/-- A comma is taken before a further member. -/
theorem nextMember_length (found : nextMember text = .ok (.member rest)) :
    rest.length < text.length := by
  -- Behind the comma at most spaces are skipped.
  rw [nextMember_eq] at found
  obtain ⟨tail, shorter, member⟩ := afterComma_of_front found (by simp)
  have mirrors : Mirrors .strict _ _ _ _ _ := memberAfterComma_mirrors tail
  rw [member] at mirrors
  exact Nat.lt_of_le_of_lt mirrors.shorter shorter

/-- A comma is taken before a further key. -/
theorem nextKey_length (found : nextKey text = .ok (.key rest)) : rest.length < text.length := by
  -- Behind the comma at most spaces and the quote are skipped.
  rw [nextKey_eq] at found
  obtain ⟨tail, shorter, key⟩ := afterComma_of_front found (by simp)
  have mirrors : Mirrors .strict _ _ _ _ _ := keyAfterComma_mirrors tail
  rw [key] at mirrors
  exact Nat.lt_of_le_of_lt mirrors.shorter shorter

/-! ## More steps -/

/-- A value does not change as long as its parts do not. -/
theorem valueFrom_congr {items other : Nat → ListNext → Except Fault (List Value × List Char)}
    {bindings another : Nat → ObjectNext → Except Fault (List (String × Value) × List Char)}
    (depth : Nat) (first : Char) (rest : List Char)
    (sequences : ∀ depth next, firstMember rest = .ok next → items depth next = other depth next)
    (maps : ∀ depth next, firstKey rest = .ok next → bindings depth next = another depth next) :
    valueFrom rules items bindings depth first rest =
      valueFrom rules other another depth first rest := by
  -- The parts come up behind a first member or a first key.
  have members depth : firstMember rest >>= items depth = firstMember rest >>= other depth :=
    bind_congr_of_ok (sequences depth)
  have entries depth : firstKey rest >>= bindings depth = firstKey rest >>= another depth :=
    bind_congr_of_ok (maps depth)
  simp only [valueFrom, members, entries]

/-- Two steps for each character and one more are enough for a value. -/
def ValuesSettled (rules : Rules) (steps more : Nat) : Prop :=
  ∀ depth text, 2 * text.length < steps →
    readValue rules more depth text = readValue rules steps depth text

/-- For the members of a sequence, one step more than for a value is enough. -/
def ItemsSettled (rules : Rules) (steps more : Nat) : Prop :=
  ∀ depth next, (∀ text, next = .member text → 2 * text.length + 1 < steps) →
    readItems rules more depth next = readItems rules steps depth next

/-- The same holds for the bindings of a map. -/
def BindingsSettled (rules : Rules) (steps more : Nat) : Prop :=
  ∀ depth next, (∀ text, next = .key text → 2 * text.length + 1 < steps) →
    readBindings rules more depth next = readBindings rules steps depth next

section Settling

variable {steps more : Nat}

/-- A value is settled with its members or bindings, which stand behind its first character. -/
theorem valuesSettled_succ (items : ItemsSettled rules steps more)
    (bindings : BindingsSettled rules steps more) :
    ValuesSettled rules (steps + 1) (more + 1) := by
  intro depth text enough
  rw [readValue_eq, readValue_eq]
  have spacing := skipSpacing_length text
  -- What follows the spaces is no longer than the text.
  generalize skipSpacing text = front at spacing
  cases front with
  | nil => rfl
  | cons first rest =>
    rw [List.length_cons] at spacing
    refine valueFrom_congr depth first rest (fun depth next found => ?_)
      fun depth next found => ?_
    · -- The bracket has been taken, so two steps are spare.
      refine items depth next fun text member => ?_
      have mirrors : Mirrors .strict _ _ _ _ _ := firstMember_mirrors rest
      rw [found, member] at mirrors
      have shorter : text.length ≤ rest.length := mirrors.shorter
      omega
    · refine bindings depth next fun text key => ?_
      have mirrors : Mirrors .strict _ _ _ _ _ := firstKey_mirrors rest
      rw [found, key] at mirrors
      have shorter : text.length ≤ rest.length := mirrors.shorter
      omega

/-- Members are settled with the value of the first and with the others, which stand behind a
comma. -/
theorem itemsSettled_succ (values : ValuesSettled rules steps more)
    (items : ItemsSettled rules steps more) : ItemsSettled rules (steps + 1) (more + 1) := by
  intro depth next enough
  cases next with
  | finished rest => rw [readItems, readItems]
  | member text =>
    have below := enough text rfl
    rw [readItems, readItems, values depth text (by omega)]
    refine bind_congr_of_ok fun result read => ?_
    obtain ⟨item, rest⟩ := result
    dsimp only
    congr 1
    refine bind_congr_of_ok fun next found => items depth next fun behind member => ?_
    subst member
    -- The comma behind the item makes the text of the others shorter.
    have behindItem := readValue_length read
    have comma := nextMember_length found
    omega

/-- Bindings are settled with the value of the first and with the others, which stand behind a
comma. -/
theorem bindingsSettled_succ (values : ValuesSettled rules steps more)
    (bindings : BindingsSettled rules steps more) :
    BindingsSettled rules (steps + 1) (more + 1) := by
  intro depth next enough
  cases next with
  | finished rest => rw [readBindings, readBindings]
  | key text =>
    -- The key is read the same way, so that both readers go on behind it.
    have below := enough text rfl
    rw [readBindings, readBindings]
    refine bind_congr_of_ok fun key keyRead => ?_
    refine bind_congr_of_ok fun rest colonRead => ?_
    -- The value stands behind the key and its colon, and is no longer than the text.
    have behindKey : key.2.length ≤ text.length := by
      have mirrors := readString_mirrors rules text
      rw [keyRead] at mirrors
      exact mirrors.shorter
    have behindColon : rest.length ≤ key.2.length := by
      have mirrors : Mirrors .strict _ _ _ _ _ := readColon_mirrors key.2
      rw [colonRead] at mirrors
      exact mirrors.shorter
    rw [values depth rest (by omega)]
    refine bind_congr_of_ok fun result read => ?_
    obtain ⟨value, left⟩ := result
    dsimp only
    congr 1
    refine bind_congr_of_ok fun next found => bindings depth next fun behind another => ?_
    subst another
    -- As with items, the comma behind the value makes the rest shorter.
    have behindValue := readValue_length read
    have comma := nextKey_length found
    omega

/-- As soon as the steps are enough, more of them change nothing. -/
theorem readers_settled (rules : Rules) (le : steps ≤ more) :
    ValuesSettled rules steps more ∧ ItemsSettled rules steps more ∧
      BindingsSettled rules steps more := by
  -- What is left for a part is shorter by its bracket, its quote or the comma before it.
  induction steps generalizing more with
  | zero =>
    refine ⟨fun depth text enough => ?_, fun depth next enough => ?_, fun depth next enough => ?_⟩
    · -- No text is short enough for no steps at all.
      exact absurd enough (Nat.not_lt_zero _)
    · cases next with
      | member text => exact absurd (enough text rfl) (Nat.not_lt_zero _)
      | finished rest => rw [readItems, readItems]
    · cases next with
      | key text => exact absurd (enough text rfl) (Nat.not_lt_zero _)
      | finished rest => rw [readBindings, readBindings]
  | succ steps ih =>
    obtain ⟨more, rfl⟩ := Nat.exists_eq_add_one.mpr (Nat.lt_of_lt_of_le (Nat.succ_pos steps) le)
    obtain ⟨values, items, bindings⟩ := ih (Nat.le_of_succ_le_succ le)
    exact ⟨valuesSettled_succ items bindings, itemsSettled_succ values items,
      bindingsSettled_succ values bindings⟩

end Settling

/-- A whole text is read alike with any number of steps that is enough. -/
theorem readWhole_eq (rules : Rules) {text : List Char} {steps : Nat}
    (enough : 2 * text.length < steps) :
    readWhole rules text = readValue rules steps nestingLimit text >>= requireEnd := by
  rw [readWhole, (readers_settled rules enough).1 nestingLimit text (Nat.lt_succ_self _)]

end PayloadTemplate.Json
