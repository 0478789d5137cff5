import PayloadTemplate.Proofs.Entries
import PayloadTemplate.Proofs.Json.Integers
import PayloadTemplate.Proofs.Json.Steps

/-! Values that were written as JSON text read back as the values that they were written from. -/

namespace PayloadTemplate

namespace Json

/-! ## Values that JSON text can hold -/

/-- Separators are a sign and blanks behind it. -/
structure Style.Regular (style : Style) : Prop where
  /-- Members are separated by a comma. -/
  comma : ∃ blanks, style.comma = ',' :: blanks ∧ blanks.all isSpacing = true
  /-- Keys are separated from values by a colon. -/
  colon : ∃ blanks, style.colon = ':' :: blanks ∧ blanks.all isSpacing = true

theorem regular_spacedAscii : Style.spacedAscii.Regular :=
  ⟨⟨[' '], rfl, rfl⟩, ⟨[' '], rfl, rfl⟩⟩

/-- Values whose numbers are integers of 64 bits, signed or not, whose maps have distinct keys, and
in which sequences and maps are nested in at most so many levels. -/
inductive Exact : Nat → Value → Prop where
  /-- No value. -/
  | null {depth : Nat} : Exact depth .null
  /-- Any truth value. -/
  | bool {depth : Nat} (value : Bool) : Exact depth (.bool value)
  /-- An integer of 64 bits. -/
  | integer {depth : Nat} {value : Int} (low : -9223372036854775808 ≤ value)
      (high : value < wordValues) : Exact depth (.number (.integer value))
  /-- Any text. -/
  | string {depth : Nat} (value : String) : Exact depth (.string value)
  /-- A sequence of such values, which are nested one level less. -/
  | sequence {depth : Nat} {items : List Value} (each : ∀ item ∈ items, Exact depth item) :
      Exact (depth + 1) (.sequence items)
  /-- A map of such values, which are nested one level less. -/
  | map {depth : Nat} {entries : List (String × Value)} (distinct : (entries.map Prod.fst).Nodup)
      (each : ∀ entry ∈ entries, Exact depth entry.2) : Exact (depth + 1) (.map entries)

/-- A value is read back from its text with any number of steps that is large enough, whatever
follows. -/
def ReadsBack (style : Style) (depth : Nat) (value : Value) : Prop :=
  ∃ enough, ∀ steps, enough ≤ steps → ∀ rules rest, EndsNumber rest →
    readValue rules steps depth (valueChars style value ++ rest) = .ok (value, rest)

variable {style : Style} {depth : Nat} {value : Value} {rules : Rules} {rest : List Char}

/-! ## Between values -/

/-- Blanks are skipped. -/
theorem skipSpacing_append {blanks : List Char} (spacing : blanks.all isSpacing = true)
    (text : List Char) : skipSpacing (blanks ++ text) = skipSpacing text :=
  List.dropWhile_append_of_pos (List.all_eq_true.mp spacing)

/-- Nothing is skipped in front of another character. -/
theorem skipSpacing_cons {first : Char} (solid : isSpacing first = false) (rest : List Char) :
    skipSpacing (first :: rest) = first :: rest :=
  List.dropWhile_cons_of_neg (by simp [solid])

/-- No digit is a blank. -/
theorem solid_of_isDigit {first : Char} (decimal : first.isDigit = true) :
    isSpacing first = false := by
  rw [Bool.eq_false_iff]
  intro spacing
  simp only [isSpacing, Bool.or_eq_true, beq_iff_eq] at spacing
  rcases spacing with ((rfl | rfl) | rfl) | rfl <;> exact absurd decimal (by decide)

/-- The text of a value begins with a character that is neither a blank nor the end of a
sequence. -/
theorem Exact.begins (exact : Exact depth value) (style : Style) :
    ∃ first rest, valueChars style value = first :: rest ∧ isSpacing first = false ∧
      first ≠ ']' := by
  -- Brackets, quotes, letters, a minus or a digit: none of them is a blank or ends a sequence.
  cases exact with
  | null => exact ⟨_, _, rfl, rfl, by decide⟩
  | bool value => cases value <;> exact ⟨_, _, rfl, rfl, by decide⟩
  | @integer _ value low high =>
    rw [valueChars, numberChars, integerChars]
    split
    · exact ⟨_, _, rfl, rfl, by decide⟩
    · obtain ⟨first, digits, written, decimal⟩ := exists_digit value.natAbs
      refine ⟨first, digits, written, solid_of_isDigit decimal, ?_⟩
      rintro rfl
      exact absurd decimal (by decide)
  | string value => exact ⟨_, _, rfl, rfl, by decide⟩
  | sequence each => exact ⟨_, _, rfl, rfl, by decide⟩
  | map distinct each => exact ⟨_, _, rfl, rfl, by decide⟩

/-- The end of a sequence or map and a separator all end a number. -/
theorem endsNumber_cons {character : Char} (sign : character ∈ [',', ']', '}'])
    (rest : List Char) : EndsNumber (character :: rest) := by
  -- None of them is a digit, a point or the mark of an exponent.
  intro first same
  obtain rfl : character = first := by simpa using same
  simp only [List.mem_cons, List.not_mem_nil, or_false] at sign
  rcases sign with rfl | rfl | rfl <;> decide

theorem endsNumber_nil : EndsNumber [] := by
  intro first same
  cases same

/-! ## Reading values -/

/-- A value, by its first character. -/
theorem readValue_cons {first : Char} (solid : isSpacing first = false) (rules : Rules)
    (steps depth : Nat) (rest : List Char) :
    readValue rules (steps + 1) depth (first :: rest) =
      valueFrom rules (readItems rules steps) (readBindings rules steps) depth first rest := by
  rw [readValue_eq, skipSpacing_cons solid]
  rfl

/-- Integers are read back. -/
theorem readsBack_integer {value : Int} (low : -9223372036854775808 ≤ value)
    (high : value < wordValues) : ReadsBack style depth (.number (.integer value)) := by
  refine ⟨1, fun steps enough rules rest ends => ?_⟩
  obtain ⟨steps, rfl⟩ := Nat.exists_eq_add_one.mpr enough
  rw [valueChars, numberChars, integerChars]
  -- The minus of a negative integer is taken by the reader of values.
  split
  · rename_i negative
    have read := readNumeral_negative negative low ends
    rw [List.cons_append, readValue_cons rfl]
    simp [valueFrom, read, Bind.bind, Except.bind, Pure.pure, Except.pure]
  · -- Any other integer begins with a digit, which belongs to the numeral.
    rename_i positive
    have same : (value.natAbs : Int) = value := by omega
    have read := readNumeral_natural (show value.natAbs < wordValues by omega) ends
    obtain ⟨first, digits, written, decimal⟩ := exists_digit value.natAbs
    have solid : isSpacing first = false := solid_of_isDigit decimal
    rw [written, List.cons_append] at read
    rw [written, List.cons_append, readValue_cons solid, valueFrom_digit decimal, read, same]
    rfl

/-! ## Sequences -/

/-- A member of a sequence is found after the comma and its blanks. -/
theorem nextMember_comma {first : Char} {blanks : List Char}
    (spacing : blanks.all isSpacing = true) (solid : isSpacing first = false)
    (goes : first ≠ ']') (rest : List Char) :
    nextMember (',' :: blanks ++ (first :: rest)) = .ok (.member (first :: rest)) := by
  -- Behind the comma only the end of the sequence would be refused.
  have after : memberAfterComma (blanks ++ first :: rest) = .ok (.member (first :: rest)) := by
    rw [memberAfterComma, skipSpacing_append spacing, skipSpacing_cons solid]
    exact if_neg goes
  rw [List.cons_append, nextMember_eq, skipSpacing_cons rfl]
  exact after

/-- The members of a sequence are read back from the given one on. -/
theorem readItems_member {item : Value} {enough : Nat}
    (back : ∀ steps, enough ≤ steps → ∀ rules rest, EndsNumber rest →
      readValue rules steps depth (valueChars style item ++ rest) = .ok (item, rest))
    {steps : Nat} (le : enough ≤ steps) {items : List Value} {behind : List Char}
    (ends : EndsNumber behind)
    (others : nextMember behind >>= readItems rules steps depth = .ok (items, rest)) :
    readItems rules (steps + 1) depth (.member (valueChars style item ++ behind)) =
      .ok (item :: items, rest) := by
  -- The item takes one step, and the others follow with what is left behind it.
  rw [readItems, back steps le rules behind ends]
  simp only [Bind.bind, Except.bind] at others ⊢
  rw [others]
  rfl

/-- What stands behind a member of a sequence ends a number. -/
theorem endsNumber_moreItems (regular : style.Regular) (items : List Value) (rest : List Char) :
    EndsNumber (moreItemsChars style items ++ rest) := by
  -- Behind an item stands the bracket or a comma.
  cases items with
  | nil => exact endsNumber_cons (by simp) rest
  | cons item others =>
    obtain ⟨blanks, comma, _⟩ := regular.comma
    rw [moreItemsChars, comma]
    exact endsNumber_cons (by simp) _

/-- The members of a sequence are read back from a first one on. -/
theorem readsBack_members (regular : style.Regular) {item : Value} {others : List Value}
    (exact : ∀ member ∈ item :: others, Exact depth member)
    (each : ∀ member ∈ item :: others, ReadsBack style depth member) :
    ∃ enough, ∀ steps, enough ≤ steps → ∀ rules rest,
      readItems rules steps depth
          (.member (valueChars style item ++ (moreItemsChars style others ++ rest))) =
        .ok (item :: others, rest) := by
  -- A member is read back, and then those behind it.
  induction others generalizing item with
  | nil =>
    obtain ⟨enough, back⟩ := each item List.mem_cons_self
    refine ⟨enough + 1, fun steps le rules rest => ?_⟩
    obtain ⟨steps, rfl⟩ := Nat.exists_eq_add_one.mpr (Nat.lt_of_lt_of_le (Nat.succ_pos _) le)
    refine readItems_member back (Nat.le_of_succ_le_succ le)
      (endsNumber_moreItems regular [] rest) ?_
    have finished : nextMember (moreItemsChars style [] ++ rest) = .ok (.finished rest) := by
      rw [moreItemsChars, List.singleton_append, nextMember_eq, skipSpacing_cons rfl]
      rfl
    rw [finished]
    simp only [Bind.bind, Except.bind]
    rw [readItems]
  | cons next later ih =>
    rw [List.forall_mem_cons] at exact each
    -- As many steps as the member or the others need, and one more.
    obtain ⟨enoughItem, back⟩ := each.1
    obtain ⟨enoughOthers, backOthers⟩ := ih exact.2 each.2
    refine ⟨max enoughItem enoughOthers + 1, fun steps le rules rest => ?_⟩
    obtain ⟨steps, rfl⟩ := Nat.exists_eq_add_one.mpr (Nat.lt_of_lt_of_le (Nat.succ_pos _) le)
    refine readItems_member back (by omega) (endsNumber_moreItems regular _ rest) ?_
    -- Behind the comma and its blanks stands the next member, which is not the end.
    obtain ⟨blanks, comma, spacing⟩ := regular.comma
    obtain ⟨first, tail, written, solid, goes⟩ :=
      (exact.2 next List.mem_cons_self).begins style
    have found : nextMember (moreItemsChars style (next :: later) ++ rest) =
        .ok (.member (valueChars style next ++ (moreItemsChars style later ++ rest))) := by
      rw [moreItemsChars, comma, written]
      simpa using nextMember_comma spacing solid goes
        (tail ++ (moreItemsChars style later ++ rest))
    rw [found]
    exact backOthers steps (by omega) rules rest

/-- Sequences are read back if their members are. -/
theorem readsBack_sequence (regular : style.Regular) {items : List Value}
    (exact : ∀ item ∈ items, Exact depth item)
    (each : ∀ item ∈ items, ReadsBack style depth item) :
    ReadsBack style (depth + 1) (.sequence items) := by
  -- An empty sequence is closed at once; in all others the first member stands without a comma.
  have members : ∃ enough, ∀ steps, enough ≤ steps → ∀ rules rest,
      firstMember (itemsChars style items ++ rest) >>= readItems rules steps depth =
        .ok (items, rest) := by
    cases items with
    | nil =>
      refine ⟨0, fun steps _ rules rest => ?_⟩
      have finished : firstMember (itemsChars style [] ++ rest) = .ok (.finished rest) := by
        rw [itemsChars, List.singleton_append, firstMember_eq, skipSpacing_cons rfl]
        rfl
      rw [finished]
      simp only [Bind.bind, Except.bind]
      rw [readItems]
    | cons item others =>
      obtain ⟨enough, back⟩ := readsBack_members regular exact each
      refine ⟨enough, fun steps le rules rest => ?_⟩
      obtain ⟨first, tail, written, solid, goes⟩ := (exact item List.mem_cons_self).begins style
      have found : firstMember (itemsChars style (item :: others) ++ rest) =
          .ok (.member (valueChars style item ++ (moreItemsChars style others ++ rest))) := by
        rw [itemsChars, List.append_assoc, written, List.cons_append, firstMember_eq,
          skipSpacing_cons solid]
        exact if_neg goes
      rw [found]
      exact back steps le rules rest
  -- The bracket takes one step, and the members have the others.
  obtain ⟨enough, read⟩ := members
  refine ⟨enough + 1, fun steps le rules rest _ => ?_⟩
  obtain ⟨steps, rfl⟩ := Nat.exists_eq_add_one.mpr (Nat.lt_of_lt_of_le (Nat.succ_pos _) le)
  rw [valueChars, List.cons_append, readValue_cons rfl, valueFrom_bracket,
    read steps (Nat.le_of_succ_le_succ le)]
  rfl

/-! ## Maps -/

/-- A key of a map is found after the comma and its blanks. -/
theorem nextKey_comma {blanks : List Char} (spacing : blanks.all isSpacing = true)
    (rest : List Char) : nextKey (',' :: blanks ++ ('"' :: rest)) = .ok (.key rest) := by
  -- Behind the comma a quote begins the next key.
  have after : keyAfterComma (blanks ++ '"' :: rest) = .ok (.key rest) := by
    rw [keyAfterComma, skipSpacing_append spacing, skipSpacing_cons rfl]
    rfl
  rw [List.cons_append, nextKey_eq, skipSpacing_cons rfl]
  exact after

/-- The bindings of a map are read back from the given key on. -/
theorem readBindings_key (regular : style.Regular) {key : String} {value : Value}
    (exact : Exact depth value) {enough : Nat}
    (back : ∀ steps, enough ≤ steps → ∀ rules rest, EndsNumber rest →
      readValue rules steps depth (valueChars style value ++ rest) = .ok (value, rest))
    {steps : Nat} (le : enough < steps) {entries : List (String × Value)} {tail behind : List Char}
    (quoted : readString rules tail =
      .ok (key, style.colon ++ valueChars style value ++ behind))
    (ends : EndsNumber behind)
    (others : nextKey behind >>= readBindings rules steps depth = .ok (entries, rest)) :
    readBindings rules (steps + 1) depth (.key tail) = .ok ((key, value) :: entries, rest) := by
  obtain ⟨blanks, colon, spacing⟩ := regular.colon
  obtain ⟨first, digits, written, solid, _⟩ := exact.begins style
  have separated : readColon (style.colon ++ valueChars style value ++ behind) =
      .ok (blanks ++ (valueChars style value ++ behind)) := by
    rw [colon, List.cons_append, List.cons_append, readColon_eq, skipSpacing_cons rfl,
      List.append_assoc]
    rfl
  -- The blanks behind the colon are skipped with the value.
  have read : readValue rules steps depth (blanks ++ (valueChars style value ++ behind)) =
      .ok (value, behind) := by
    rw [← back steps (Nat.le_of_lt le) rules behind ends]
    obtain ⟨steps, rfl⟩ := Nat.exists_eq_add_one.mpr (Nat.lt_of_le_of_lt (Nat.zero_le _) le)
    rw [readValue_eq, readValue_eq, skipSpacing_append spacing]
  -- Key, colon, value and the rest are read in this order.
  rw [readBindings, quoted]
  simp only [Bind.bind, Except.bind] at others ⊢
  rw [separated]
  dsimp only
  rw [read]
  dsimp only
  rw [others]
  rfl

/-- What stands behind a binding of a map ends a number. -/
theorem endsNumber_moreEntries (regular : style.Regular) (entries : List (String × Value))
    (rest : List Char) : EndsNumber (moreEntriesChars style entries ++ rest) := by
  -- Behind a value stands the brace or a comma.
  cases entries with
  | nil => exact endsNumber_cons (by simp) rest
  | cons entry others =>
    obtain ⟨key, value⟩ := entry
    obtain ⟨blanks, comma, _⟩ := regular.comma
    rw [moreEntriesChars, comma]
    exact endsNumber_cons (by simp) _

/-- The bindings of a map are read back from a first one on. -/
theorem readsBack_bindings (regular : style.Regular) {key : String} {value : Value}
    {others : List (String × Value)}
    (exact : ∀ entry ∈ (key, value) :: others, Exact depth entry.2)
    (each : ∀ entry ∈ (key, value) :: others, ReadsBack style depth entry.2) :
    ∃ enough, ∀ steps, enough ≤ steps → ∀ rules rest tail,
      stringChars style key ++
          (style.colon ++ valueChars style value ++ (moreEntriesChars style others ++ rest)) =
        '"' :: tail →
      readBindings rules steps depth (.key tail) = .ok ((key, value) :: others, rest) := by
  -- A binding is read back, and then those behind it.
  induction others generalizing key value with
  | nil =>
    obtain ⟨enough, back⟩ := each (key, value) List.mem_cons_self
    refine ⟨enough + 2, fun steps le rules rest tail quote => ?_⟩
    obtain ⟨steps, rfl⟩ := Nat.exists_eq_add_one.mpr (Nat.lt_of_lt_of_le (Nat.succ_pos _) le)
    refine readBindings_key regular (exact (key, value) List.mem_cons_self) back (by omega)
      (readString_of_stringChars quote) (endsNumber_moreEntries regular [] rest) ?_
    have finished : nextKey (moreEntriesChars style [] ++ rest) = .ok (.finished rest) := by
      rw [moreEntriesChars, List.singleton_append, nextKey_eq, skipSpacing_cons rfl]
      rfl
    rw [finished]
    simp only [Bind.bind, Except.bind]
    rw [readBindings]
  | cons next later ih =>
    obtain ⟨nextKey, nextValue⟩ := next
    rw [List.forall_mem_cons] at exact each
    obtain ⟨enoughValue, back⟩ := each.1
    obtain ⟨enoughOthers, backOthers⟩ := ih exact.2 each.2
    refine ⟨max enoughValue enoughOthers + 2, fun steps le rules rest tail quote => ?_⟩
    obtain ⟨steps, rfl⟩ := Nat.exists_eq_add_one.mpr (Nat.lt_of_lt_of_le (Nat.succ_pos _) le)
    refine readBindings_key regular exact.1 back (by omega) (readString_of_stringChars quote)
      (endsNumber_moreEntries regular _ rest) ?_
    -- Behind the comma and its blanks stands the quote of the next key.
    obtain ⟨blanks, comma, spacing⟩ := regular.comma
    obtain ⟨nextTail, nextQuote⟩ := exists_stringChars_append style nextKey
      (style.colon ++ valueChars style nextValue ++ (moreEntriesChars style later ++ rest))
    have found := nextKey_comma spacing nextTail
    rw [← nextQuote] at found
    have same : moreEntriesChars style ((nextKey, nextValue) :: later) ++ rest =
        ',' :: blanks ++ (stringChars style nextKey ++ (style.colon ++
          valueChars style nextValue ++ (moreEntriesChars style later ++ rest))) := by
      simp [moreEntriesChars, comma]
    rw [same, found]
    exact backOthers steps (by omega) rules rest nextTail nextQuote

/-- Maps of distinct keys are read back if their values are. -/
theorem readsBack_map (regular : style.Regular) {entries : List (String × Value)}
    (distinct : (entries.map Prod.fst).Nodup) (exact : ∀ entry ∈ entries, Exact depth entry.2)
    (each : ∀ entry ∈ entries, ReadsBack style depth entry.2) :
    ReadsBack style (depth + 1) (.map entries) := by
  -- As with sequences; of distinct keys, no binding takes the place of another.
  have bindings : ∃ enough, ∀ steps, enough ≤ steps → ∀ rules rest,
      firstKey (entriesChars style entries ++ rest) >>= readBindings rules steps depth =
        .ok (entries, rest) := by
    cases entries with
    | nil =>
      refine ⟨0, fun steps _ rules rest => ?_⟩
      have finished : firstKey (entriesChars style [] ++ rest) = .ok (.finished rest) := by
        rw [entriesChars, List.singleton_append, firstKey_eq, skipSpacing_cons rfl]
        rfl
      rw [finished]
      simp only [Bind.bind, Except.bind]
      rw [readBindings]
    | cons entry others =>
      obtain ⟨key, value⟩ := entry
      obtain ⟨enough, back⟩ := readsBack_bindings regular exact each
      refine ⟨enough, fun steps le rules rest => ?_⟩
      -- The first key stands directly behind the brace.
      obtain ⟨tail, quote⟩ := exists_stringChars_append style key
        (style.colon ++ valueChars style value ++ (moreEntriesChars style others ++ rest))
      have same : entriesChars style ((key, value) :: others) ++ rest = '"' :: tail := by
        rw [← quote]
        simp [entriesChars]
      have found : firstKey ('"' :: tail) = .ok (.key tail) := by
        rw [firstKey_eq, skipSpacing_cons rfl]
        rfl
      rw [same, found]
      exact back steps le rules rest tail quote
  obtain ⟨enough, read⟩ := bindings
  refine ⟨enough + 1, fun steps le rules rest _ => ?_⟩
  obtain ⟨steps, rfl⟩ := Nat.exists_eq_add_one.mpr (Nat.lt_of_lt_of_le (Nat.succ_pos _) le)
  -- The bindings are collected as they stand, since their keys are distinct.
  rw [valueChars, List.cons_append, readValue_cons rfl, valueFrom_brace,
    read steps (Nat.le_of_succ_le_succ le)]
  simp only [Bind.bind, Except.bind, Value.ofBindings, Entries.ofBindings_eq_self distinct]

/-! ## All values -/

/-- Every exact value is read back. -/
theorem Exact.readsBack (regular : style.Regular) (exact : Exact depth value) :
    ReadsBack style depth value := by
  -- The induction is on what makes the value exact: members have one level less.
  induction exact with
  | null =>
    refine ⟨1, fun steps enough rules rest _ => ?_⟩
    obtain ⟨steps, rfl⟩ := Nat.exists_eq_add_one.mpr enough
    rw [valueChars, List.cons_append, readValue_cons rfl]
    rfl
  | bool value =>
    refine ⟨1, fun steps enough rules rest _ => ?_⟩
    obtain ⟨steps, rfl⟩ := Nat.exists_eq_add_one.mpr enough
    cases value <;> rw [valueChars, List.cons_append, readValue_cons rfl] <;> rfl
  | integer low high => exact readsBack_integer low high
  | string value =>
    refine ⟨1, fun steps enough rules rest _ => ?_⟩
    obtain ⟨steps, rfl⟩ := Nat.exists_eq_add_one.mpr enough
    obtain ⟨tail, quote⟩ := exists_stringChars_append style value rest
    rw [valueChars, quote, readValue_cons rfl]
    show (readString rules tail >>= fun result => _) = _
    rw [readString_of_stringChars quote]
    rfl
  | sequence exact ih => exact readsBack_sequence regular exact ih
  | map distinct exact ih => exact readsBack_map regular distinct exact ih

/-- The text of an exact value is read as that value. -/
theorem readWhole_valueChars (regular : style.Regular) (exact : Exact nestingLimit value)
    (rules : Rules) : readWhole rules (valueChars style value) = .ok value := by
  obtain ⟨enough, back⟩ := exact.readsBack regular
  -- The steps that are taken are enough, and so are any more.
  let steps := max enough (2 * (valueChars style value).length + 1)
  have read := back steps (Nat.le_max_left _ _) rules [] endsNumber_nil
  rw [List.append_nil] at read
  rw [readWhole_eq rules (Nat.lt_of_succ_le (Nat.le_max_right enough _)), read]
  rfl

end Json

end PayloadTemplate
