import PayloadTemplate.Proofs.Json.RoundTrip

/-! JSON text in the style of rendered templates is ASCII without any characters below the blank. -/

namespace PayloadTemplate.Json

/-- The characters of ASCII from the blank on. -/
def Printable (character : Char) : Prop :=
  0x20 ≤ character.toNat ∧ character.toNat < 0x80

instance (character : Char) : Decidable (Printable character) :=
  inferInstanceAs (Decidable (_ ∧ _))

/-- The characters of a fixed text are tested one by one. -/
theorem printable_of_all {text : List Char}
    (all : text.all (fun character => decide (Printable character)) = true) :
    ∀ character ∈ text, Printable character :=
  fun character member => of_decide_eq_true (List.all_eq_true.mp all character member)

/-! ## Strings -/

/-- The digits of an escape are printable. -/
theorem printable_unitEscape (unit : Nat) : ∀ character ∈ unitEscape unit, Printable character := by
  have digit : ∀ value < 16, Printable (hexDigit value) := by decide
  simp [unitEscape, digit, Nat.mod_lt, show Printable '\\' by decide, show Printable 'u' by decide]

/-- Whatever stands in a string is written with printable characters. -/
theorem printable_stringChar (written : Char) :
    ∀ character ∈ stringChar .spacedAscii written, Printable character := by
  -- It is a letter behind a backslash, one or two escapes with digits, or the character itself.
  unfold stringChar
  split
  · rename_i letter short
    unfold shortEscape? at short
    split at short <;> cases short <;> exact printable_of_all rfl
  · split
    · exact printable_unitEscape _
    · rename_i above
      split
      · intro character member
        obtain ⟨unit, _, member⟩ := List.mem_flatMap.mp member
        exact printable_unitEscape unit character member
      · -- Without an escape it is an ASCII character above the control characters.
        rename_i below
        rw [List.forall_mem_singleton]
        refine ⟨Nat.not_lt.mp above, ?_⟩
        simpa [Style.spacedAscii] using below

/-- Strings are written with printable characters. -/
theorem printable_stringChars (text : String) :
    ∀ character ∈ stringChars .spacedAscii text, Printable character := by
  -- Two quotes, and what is written for each character between them.
  intro character member
  simp only [stringChars, List.cons_append, List.mem_cons, List.mem_append, List.mem_flatMap,
    List.not_mem_nil, or_false] at member
  rcases member with rfl | ⟨written, _, member⟩ | rfl
  · decide
  · exact printable_stringChar written character member
  · decide

/-! ## Values -/

/-- Integers are written with printable characters. -/
theorem printable_integerChars (value : Int) :
    ∀ character ∈ integerChars value, Printable character := by
  -- Digits and the minus lie between the blank and the end of ASCII.
  have digits : ∀ character ∈ naturalChars value.natAbs, Printable character := by
    intro character member
    have decimal := isDigit_of_mem_naturalChars member
    simp only [Char.isDigit, Bool.and_eq_true, decide_eq_true_eq] at decimal
    have low : 48 ≤ character.toNat := decimal.1
    have high : character.toNat ≤ 57 := decimal.2
    constructor <;> omega
  unfold integerChars
  split
  · exact List.forall_mem_cons.mpr ⟨by decide, digits⟩
  · exact digits

/-- Further members of a sequence are written with printable characters if they are so
themselves. -/
theorem printable_moreItemsChars {items : List Value}
    (each : ∀ item ∈ items, ∀ character ∈ valueChars .spacedAscii item, Printable character) :
    ∀ character ∈ moreItemsChars .spacedAscii items, Printable character := by
  -- In front of each item stands the separator, and behind the last one the bracket.
  induction items with
  | nil => exact List.forall_mem_singleton.mpr (by decide)
  | cons item others ih =>
    rw [List.forall_mem_cons] at each
    rw [moreItemsChars, List.forall_mem_append, List.forall_mem_append]
    exact ⟨⟨printable_of_all rfl, each.1⟩, ih each.2⟩

/-- Further bindings of a map are written with printable characters if their values are. -/
theorem printable_moreEntriesChars {entries : List (String × Value)}
    (each : ∀ entry ∈ entries, ∀ character ∈ valueChars .spacedAscii entry.2,
      Printable character) :
    ∀ character ∈ moreEntriesChars .spacedAscii entries, Printable character := by
  -- In front of each entry stand the separator, its key and the colon.
  induction entries with
  | nil => exact List.forall_mem_singleton.mpr (by decide)
  | cons entry others ih =>
    rw [List.forall_mem_cons] at each
    rw [moreEntriesChars, List.forall_mem_append, List.forall_mem_append, List.forall_mem_append,
      List.forall_mem_append]
    exact ⟨⟨⟨⟨printable_of_all rfl, printable_stringChars _⟩, printable_of_all rfl⟩, each.1⟩,
      ih each.2⟩

/-- Exact values are written with printable characters. -/
theorem Exact.printable {depth : Nat} {value : Value} (exact : Exact depth value) :
    ∀ character ∈ valueChars .spacedAscii value, Printable character := by
  -- The induction is on what makes the value exact, which gives each member its own case.
  induction exact with
  | null => exact printable_of_all rfl
  | bool value => cases value <;> exact printable_of_all rfl
  | integer => exact printable_integerChars _
  | string value => exact printable_stringChars value
  | @sequence depth items _ each =>
    refine List.forall_mem_cons.mpr ⟨by decide, ?_⟩
    -- The first member has no separator in front of it.
    cases items with
    | nil => exact List.forall_mem_singleton.mpr (by decide)
    | cons item others =>
      rw [List.forall_mem_cons] at each
      rw [itemsChars, List.forall_mem_append]
      exact ⟨each.1, printable_moreItemsChars each.2⟩
  | @map depth entries _ _ each =>
    refine List.forall_mem_cons.mpr ⟨by decide, ?_⟩
    cases entries with
    | nil => exact List.forall_mem_singleton.mpr (by decide)
    | cons entry others =>
      rw [List.forall_mem_cons] at each
      rw [entriesChars, List.forall_mem_append, List.forall_mem_append, List.forall_mem_append]
      exact ⟨⟨⟨printable_stringChars _, printable_of_all rfl⟩, each.1⟩,
        printable_moreEntriesChars each.2⟩

end PayloadTemplate.Json
