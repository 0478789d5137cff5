import PayloadTemplate.Text.Lowercase

/-!
What lower case leaves alone.  A text in lower case stays as it is in lower case, and among ASCII
texts it is all that a comparison without regard to case can see.
-/

namespace PayloadTemplate.Text

/-! ## Runs of capitals -/

/-- The small letter of the first capital of a run. -/
def CaseRun.firstSmall (run : CaseRun) : Nat :=
  (run.first + run.shift).toNat

/-- The small letter of the last capital of a run. -/
def CaseRun.lastSmall (run : CaseRun) : Nat :=
  (run.last + run.shift).toNat

/-- No small letter of a run is a capital of the other. -/
def CaseRun.avoids (run other : CaseRun) : Bool :=
  Nat.blt run.lastSmall other.first || Nat.blt other.last run.firstSmall ||
    -- Neighbours overlap where small letters lie between the capitals.
    (List.range ((run.last - run.first) / run.stride + 1)).all fun number =>
      !other.moves (run.firstSmall + number * run.stride)

/-- The one capital without a small form of a single character. -/
def dottedCapital : CaseRun := ⟨0x0130, 0x0130, 1, 0⟩

/-- The small letters of a run are characters beyond ASCII, but for the small form of the Kelvin
sign, and they are no capitals. -/
structure CaseRun.Settled (run : CaseRun) : Prop where
  /-- The small letters lie on one side of the surrogates. -/
  valid : run.lastSmall < 0xD800 ∨ 0xDFFF < run.firstSmall ∧ run.lastSmall < 0x110000
  /-- Only one of them is an ASCII letter. -/
  beyond : 0x80 ≤ run.firstSmall ∨ run.firstSmall = 'k'.toNat ∧ run.lastSmall = 'k'.toNat
  /-- None of them is a capital. -/
  apart : (dottedCapital :: caseRuns).all run.avoids = true

instance (run : CaseRun) : Decidable run.Settled :=
  decidable_of_iff
    ((run.lastSmall < 0xD800 ∨ 0xDFFF < run.firstSmall ∧ run.lastSmall < 0x110000) ∧
      (0x80 ≤ run.firstSmall ∨ run.firstSmall = 'k'.toNat ∧ run.lastSmall = 'k'.toNat) ∧
      (dottedCapital :: caseRuns).all run.avoids = true)
    ⟨fun ⟨valid, beyond, apart⟩ => ⟨valid, beyond, apart⟩,
      fun settled => ⟨settled.valid, settled.beyond, settled.apart⟩⟩

/-- Every run is settled. -/
theorem settled_of_mem : ∀ run ∈ caseRuns, run.Settled := by
  decide +kernel

/-- The capitals of a run. -/
theorem CaseRun.moves_iff {run : CaseRun} {code : Nat} :
    run.moves code = true ↔
      run.first ≤ code ∧ code ≤ run.last ∧ (code - run.first) % run.stride = 0 := by
  simp [moves, and_assoc]

/-- What is known about the small letter of a capital. -/
theorem CaseRun.Settled.small {run : CaseRun} (settled : run.Settled) {code : Nat}
    (moved : run.moves code = true) :
    (code + run.shift).toNat.isValidChar ∧
      (0x80 ≤ (code + run.shift).toNat ∨ (code + run.shift).toNat = 'k'.toNat) ∧
      ∀ other ∈ dottedCapital :: caseRuns, other.moves (code + run.shift).toNat = false := by
  obtain ⟨low, high, step⟩ := moves_iff.mp moved
  have valid := settled.valid
  have beyond := settled.beyond
  have kelvin : 'k'.toNat = 0x6B := rfl
  simp only [firstSmall, lastSmall, kelvin] at valid beyond
  -- The shift leads to a character, beyond ASCII or to the letter k.
  refine ⟨?_, by omega, fun other member => ?_⟩
  · unfold Nat.isValidChar
    omega
  · -- A capital of the other run lies within its ends, where each small letter was tried.
    have apart := List.all_eq_true.mp settled.apart other member
    simp only [avoids, Bool.or_eq_true, Nat.blt_eq, List.all_eq_true, List.mem_range,
      Bool.not_eq_true', firstSmall, lastSmall] at apart
    obtain (below | above) | apart := apart
    · refine Bool.eq_false_iff.mpr fun moves => ?_
      have := moves_iff.mp moves
      omega
    · refine Bool.eq_false_iff.mpr fun moves => ?_
      have := moves_iff.mp moves
      omega
    · have whole : (code - run.first) / run.stride * run.stride = code - run.first :=
        Nat.div_mul_cancel (Nat.dvd_of_mod_eq_zero step)
      have number : (code - run.first) / run.stride < (run.last - run.first) / run.stride + 1 :=
        Nat.lt_succ_of_le (Nat.div_le_div_right (by omega))
      have tried := apart _ number
      rw [whole] at tried
      have small : (code + run.shift).toNat =
          (run.first + run.shift).toNat + (code - run.first) := by omega
      rw [small]
      exact tried

/-! ## Characters -/

/-- What holds of each of the first characters holds of every ASCII character. -/
theorem forall_ascii (holds : Char → Prop) (checked : ∀ code < 0x80, holds (Char.ofNat code))
    {character : Char} (plain : character.toNat < 0x80) : holds character :=
  Char.ofNat_toNat character ▸ checked _ plain

/-- A character is its own small form. -/
def IsSmall (character : Char) : Prop :=
  lowercaseChar character = [character]

instance (character : Char) : Decidable (IsSmall character) :=
  inferInstanceAs (Decidable (_ = _))

/-- The small form of an ASCII character. -/
theorem lowercaseChar_of_ascii {character : Char} (plain : character.toNat < 0x80) :
    lowercaseChar character = [character.toLower] :=
  if_pos plain

/-- A character beyond ASCII that no run moves is its own small form, unless it is the one capital
without a small form of a single character. -/
theorem isSmall_of_not_moved {character : Char} (beyond : 0x80 ≤ character.toNat)
    (still : ∀ run ∈ dottedCapital :: caseRuns, run.moves character.toNat = false) :
    IsSmall character := by
  -- No run moves the character, and the dotted capital is moved by its own run.
  have undotted : character ≠ 'İ' := by
    rintro rfl
    exact absurd (still _ List.mem_cons_self) (by decide)
  have none : caseRuns.find? (·.moves character.toNat) = none :=
    List.find?_eq_none.mpr fun run member => by simp [still run (List.mem_cons_of_mem _ member)]
  simp [IsSmall, lowercaseChar, Nat.not_lt.mpr beyond, undotted, none]

/-- The small form of a character beyond ASCII: that of the dotted capital, a small letter of its
own, or the character itself. -/
theorem lowercaseChar_of_not_ascii {character : Char} (beyond : 0x80 ≤ character.toNat) :
    lowercaseChar character = ['i', '\u0307'] ∨
      ∃ small, lowercaseChar character = [small] ∧ IsSmall small ∧
        (0x80 ≤ small.toNat ∨ small = 'k') := by
  by_cases dotted : character = 'İ'
  · exact .inl (by simp [lowercaseChar, dotted])
  · cases found : caseRuns.find? (·.moves character.toNat) with
    | none =>
      have same : lowercaseChar character = [character] := by
        simp [lowercaseChar, Nat.not_lt.mpr beyond, dotted, found]
      exact .inr ⟨character, same, same, .inl beyond⟩
    | some run =>
      -- The run moves it to a character that no run moves any further.
      have moved : run.moves character.toNat = true :=
        List.find?_some (p := fun run : CaseRun => run.moves character.toNat) found
      obtain ⟨valid, place, still⟩ :=
        (settled_of_mem run (List.mem_of_find?_eq_some found)).small moved
      have same : lowercaseChar character =
          [Char.ofNat (character.toNat + run.shift).toNat] := by
        simp [lowercaseChar, Nat.not_lt.mpr beyond, dotted, found]
      -- The shifted number is that of a character, so the character has this number.
      have code : (Char.ofNat (character.toNat + run.shift).toNat).toNat =
          (character.toNat + run.shift).toNat := by
        rw [Char.ofNat, dif_pos valid]
        rfl
      refine .inr ⟨_, same, ?_⟩
      obtain beyond | kelvin := place
      · have high := code.symm ▸ beyond
        exact ⟨isSmall_of_not_moved high (code.symm ▸ still), .inl high⟩
      · rw [kelvin]
        exact ⟨by decide, .inr (by decide)⟩

/-- All of a character's small form is small. -/
theorem isSmall_of_mem_lowercaseChar {character small : Char}
    (member : small ∈ lowercaseChar character) : IsSmall small := by
  -- ASCII is tried in full; beyond it there are two letters, or one that is small.
  by_cases plain : character.toNat < 0x80
  · rw [lowercaseChar_of_ascii plain, List.mem_singleton] at member
    subst member
    exact forall_ascii (fun character => IsSmall character.toLower) (by decide) plain
  · obtain dotted | ⟨other, same, isSmall, _⟩ :=
      lowercaseChar_of_not_ascii (Nat.le_of_not_lt plain)
    · rw [dotted, List.mem_cons, List.mem_singleton] at member
      obtain rfl | rfl := member
      · decide
      · exact isSmall_of_not_moved (by decide) (by decide +kernel)
    · rw [same, List.mem_singleton] at member
      exact member ▸ isSmall

/-! ## Texts -/

/-- The small form of a character within a text: a capital sigma has its own. -/
def smallForm (before : List Char) (character : Char) (after : List Char) : List Char :=
  if character == 'Σ' then [lowercaseSigma before after] else lowercaseChar character

/-- Lower case is made up of the small forms of the characters, one after the other. -/
theorem lowercaseFrom_cons (before : List Char) (character : Char) (rest : List Char) :
    lowercaseFrom before (character :: rest) =
      smallForm before character rest ++ lowercaseFrom (character :: before) rest := rfl

/-- The capital sigma is not small, so small characters have the same form within every text. -/
theorem IsSmall.smallForm_eq {character : Char} (small : IsSmall character)
    (before after : List Char) : smallForm before character after = [character] := by
  -- The capital sigma alone has a form that depends on its place, and it is not small.
  have other : character ≠ 'Σ' := by
    rintro rfl
    exact absurd small (by decide +kernel)
  rw [smallForm, if_neg (by simpa using other)]
  exact small

/-- Small characters stay as they are. -/
theorem lowercaseFrom_of_isSmall {characters : List Char}
    (small : ∀ character ∈ characters, IsSmall character) (before : List Char) :
    lowercaseFrom before characters = characters := by
  -- Where each character is small, it does not matter what stands before it.
  induction characters generalizing before with
  | nil => rfl
  | cons character rest ih =>
    obtain ⟨first, others⟩ := List.forall_mem_cons.mp small
    rw [lowercaseFrom_cons, first.smallForm_eq, ih others, List.singleton_append]

/-- All of a text in lower case is small. -/
theorem isSmall_of_mem_lowercaseFrom {characters before : List Char} {small : Char}
    (member : small ∈ lowercaseFrom before characters) : IsSmall small := by
  -- Both forms of the sigma are small, and so are the letters of any other character.
  induction characters generalizing before with
  | nil => cases member
  | cons character rest ih =>
    rw [lowercaseFrom_cons, List.mem_append] at member
    obtain here | later := member
    · unfold smallForm lowercaseSigma at here
      split at here
      · split at here <;> (obtain rfl := List.mem_singleton.mp here; decide +kernel)
      · exact isSmall_of_mem_lowercaseChar here
    · exact ih later

/-- Lower case changes nothing that is in lower case already. -/
@[simp] theorem lowercase_lowercase (text : String) :
    lowercase (lowercase text) = lowercase text := by
  -- All that was made small stays as it is.
  have small : lowercaseFrom [] (lowercaseFrom [] text.toList) = lowercaseFrom [] text.toList :=
    lowercaseFrom_of_isSmall (fun _ => isSmall_of_mem_lowercaseFrom) []
  simp [lowercase, small]

/-! ## ASCII texts -/

/-- The text has ASCII characters only. -/
def IsAscii (text : String) : Prop :=
  ∀ character ∈ text.toList, character.toNat < 0x80

instance (text : String) : Decidable (IsAscii text) :=
  decidable_of_iff (text.toList.all (·.toNat < 0x80) = true) (by simp [IsAscii])

/-- The form of an ASCII character within every text is its ASCII small letter. -/
theorem smallForm_of_ascii {character : Char} (plain : character.toNat < 0x80)
    (before after : List Char) : smallForm before character after = [character.toLower] := by
  -- No sigma is an ASCII character.
  have other : character ≠ 'Σ' := by
    rintro rfl
    exact absurd plain (by decide)
  simpa [smallForm, other] using lowercaseChar_of_ascii plain

/-- ASCII characters are put in lower case one by one. -/
theorem lowercaseFrom_of_ascii {characters : List Char}
    (plain : ∀ character ∈ characters, character.toNat < 0x80) (before : List Char) :
    lowercaseFrom before characters = characters.map Char.toLower := by
  -- Each character has its own small letter, whatever stands before it.
  induction characters generalizing before with
  | nil => rfl
  | cons character rest ih =>
    obtain ⟨first, others⟩ := List.forall_mem_cons.mp plain
    rw [lowercaseFrom_cons, smallForm_of_ascii first, ih others, List.map_cons,
      List.singleton_append]

/-- A comparison of ASCII texts without regard to case is one of their lower cases. -/
theorem sameIgnoringAsciiCase_iff {left right : String} (plainLeft : IsAscii left)
    (plainRight : IsAscii right) :
    sameIgnoringAsciiCase left right = true ↔ lowercase left = lowercase right := by
  rw [sameIgnoringAsciiCase, beq_iff_eq, lowercase, lowercase, String.ofList_inj,
    lowercaseFrom_of_ascii plainLeft, lowercaseFrom_of_ascii plainRight]

/-- The ASCII small letter of a character lies within ASCII exactly when the character does. -/
theorem toLower_toNat_lt_iff {character : Char} :
    character.toLower.toNat < 0x80 ↔ character.toNat < 0x80 := by
  by_cases plain : character.toNat < 0x80
  · exact iff_of_true (forall_ascii (·.toLower.toNat < 0x80) (by decide) plain) plain
  · -- No character beyond ASCII lies between the capitals.
    have same : character.toLower = character := by
      unfold Char.toLower
      refine dif_neg fun upper => ?_
      have high : character.val.toNat ≤ 0x5A := UInt32.le_iff_toNat_le.mp upper.2
      exact plain (Nat.lt_of_le_of_lt high (by decide))
    rw [same]

/-- Beyond ASCII nothing has a small form of other ASCII characters than the letter k. -/
theorem ascii_of_smallForm {before after : List Char} {character : Char}
    (plain : ∀ small ∈ smallForm before character after, small.toNat < 0x80)
    (notK : 'k' ∉ smallForm before character after) : character.toNat < 0x80 := by
  -- The small form of the dotted capital has a mark beyond ASCII, and a run leads to the k only.
  refine Nat.lt_of_not_le fun beyond => ?_
  unfold smallForm lowercaseSigma at plain notK
  split at plain
  · split at plain <;> simp at plain
  · rename_i notSigma
    obtain dotted | ⟨small, same, _, place⟩ := lowercaseChar_of_not_ascii beyond
    · simp [dotted] at plain
    · rw [if_neg notSigma, same, List.mem_singleton] at notK
      rw [same, List.forall_mem_singleton] at plain
      obtain high | kelvin := place
      · exact absurd plain (Nat.not_lt.mpr high)
      · exact notK kelvin.symm

/-- What is an ASCII text without the letter k in lower case has been one all along. -/
theorem ascii_of_lowercaseFrom {characters before : List Char}
    (plain : ∀ small ∈ lowercaseFrom before characters, small.toNat < 0x80)
    (notK : 'k' ∉ lowercaseFrom before characters) :
    ∀ character ∈ characters, character.toNat < 0x80 := by
  -- The letters of each character are among those of the whole text.
  induction characters generalizing before with
  | nil => simp
  | cons character rest ih =>
    rw [lowercaseFrom_cons, List.forall_mem_append] at plain
    rw [lowercaseFrom_cons, List.mem_append, not_or] at notK
    exact List.forall_mem_cons.mpr
      ⟨ascii_of_smallForm plain.1 notK.1, ih plain.2 notK.2⟩

/-- A text in any script is a given ASCII text in lower case exactly when it is the same but for the
case of its ASCII letters.  The Kelvin sign makes an exception of the letter k. -/
theorem sameIgnoringAsciiCase_iff_lowercase {text small : String} (plain : IsAscii small)
    (notK : 'k' ∉ small.toList) (settled : lowercase small = small) :
    sameIgnoringAsciiCase text small = true ↔ lowercase text = small := by
  constructor
  · -- The text has the letters of an ASCII text up to their case, so it is ASCII as well.
    intro same
    have letters : text.toList.map Char.toLower = small.toList.map Char.toLower := by
      simpa [sameIgnoringAsciiCase] using same
    have plainText : IsAscii text := by
      intro character member
      have image : character.toLower ∈ small.toList.map Char.toLower :=
        letters ▸ List.mem_map_of_mem member
      obtain ⟨other, known, equal⟩ := List.mem_map.mp image
      exact toLower_toNat_lt_iff.mp (equal ▸ toLower_toNat_lt_iff.mpr (plain other known))
    exact ((sameIgnoringAsciiCase_iff plainText plain).mp same).trans settled
  · -- The small letters are ASCII and there is no Kelvin sign among them, so the text is ASCII.
    intro lower
    have plainText : IsAscii text := by
      have letters : lowercaseFrom [] text.toList = small.toList := by
        rw [← lower, lowercase, String.toList_ofList]
      exact ascii_of_lowercaseFrom (letters.symm ▸ plain) (letters.symm ▸ notK)
    exact (sameIgnoringAsciiCase_iff plainText plain).mpr (lower.trans settled.symm)

end PayloadTemplate.Text
