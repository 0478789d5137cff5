import Mathlib.Tactic.IntervalCases
import PayloadTemplate.Json.Layout
import PayloadTemplate.Proofs.Json.Fronts

/-! Integers that were written as JSON text are read as the integers that they were written from. -/

namespace PayloadTemplate.Json

/-! ## Decimal digits -/

/-- Only zero is written with a zero at the front. -/
theorem exists_naturalChars_eq_cons {value : Nat} (positive : 0 < value) :
    ∃ first rest, naturalChars value = first :: rest ∧ first ≠ '0' := by
  -- The digits are those of the tenth part and a last one.
  induction value using Nat.strong_induction_on with
  | _ value ih =>
    rw [naturalChars, Nat.toDigits_eq_if (by decide)]
    split
    · rename_i single
      refine ⟨Nat.digitChar value, [], rfl, ?_⟩
      interval_cases value <;> decide
    · rename_i several
      obtain ⟨first, rest, written, nonzero⟩ := ih (value / 10) (by omega) (by omega)
      rw [naturalChars] at written
      exact ⟨first, rest ++ [(value % 10).digitChar], by rw [written]; rfl, nonzero⟩

/-- All characters of a natural number are decimal digits. -/
theorem isDigit_of_mem_naturalChars {value : Nat} {character : Char}
    (member : character ∈ naturalChars value) : character.isDigit = true :=
  Nat.isDigit_of_mem_toDigits (by decide) (by decide) member

/-- A natural number has a first digit. -/
theorem exists_digit (value : Nat) :
    ∃ first rest, naturalChars value = first :: rest ∧ first.isDigit = true := by
  -- Even zero is written with one digit.
  cases written : naturalChars value with
  | nil => exact absurd written Nat.toDigits_ne_nil
  | cons first rest =>
    have member : first ∈ naturalChars value := written ▸ List.mem_cons_self
    exact ⟨first, rest, rfl, isDigit_of_mem_naturalChars member⟩

/-- Appending digits makes no number smaller. -/
theorem le_ofDigitChars (value : Nat) (digits : List Char) :
    value ≤ Nat.ofDigitChars 10 digits value := by
  -- With every digit the number grows tenfold, or more.
  induction digits generalizing value with
  | nil => exact Nat.le_refl _
  | cons digit rest ih =>
    rw [Nat.ofDigitChars_cons]
    exact Nat.le_trans (by omega) (ih _)

/-- Digits are gathered in a number as long as it stays below the bound, up to whatever is no
digit. -/
theorem gather_digits {bound value : Nat} {digits rest : List Char}
    (decimal : ∀ digit ∈ digits, digit.isDigit = true)
    (below : Nat.ofDigitChars 10 digits value < bound) (ends : startsWithDigit rest = false) :
    gather bound value (digits ++ rest) =
      ⟨Nat.ofDigitChars 10 digits value, digits.length, rest⟩ := by
  -- The number only grows, so it is below the bound at every digit if it is so in the end.
  induction digits generalizing value with
  | nil =>
    cases rest with
    | nil => rfl
    | cons character rest =>
      -- Behind the digits the gathering stops.
      have other : character.isDigit = false := ends
      simp [gather, other]
  | cons digit digits ih =>
    simp only [List.forall_mem_cons] at decimal
    have next : 10 * value + (digit.toNat - '0'.toNat) = value * 10 + digitValue digit := by
      rw [digitValue]
      omega
    rw [Nat.ofDigitChars_cons, next] at below
    have fits := Nat.lt_of_le_of_lt (le_ofDigitChars _ _) below
    rw [List.cons_append, gather, Nat.ofDigitChars_cons, next]
    simp [decimal.1, fits, ih decimal.2 below]

/-! ## Numbers -/

/-- A text that does not go on with a number. -/
def EndsNumber (rest : List Char) : Prop :=
  ∀ character ∈ rest.head?,
    character.isDigit = false ∧ character ≠ '.' ∧ character ≠ 'e' ∧ character ≠ 'E'

/-- Where a number ends, an integer is complete. -/
theorem readIntegerEnd_of_ends {rest : List Char} (ends : EndsNumber rest) (negative : Bool)
    (value : Nat) : readIntegerEnd negative value rest = integerNumber negative value rest := by
  -- Neither a point nor an exponent mark can follow, so the integer is finished.
  cases rest with
  | nil => rfl
  | cons character rest =>
    obtain ⟨_, point, lower, upper⟩ := ends character rfl
    rw [readIntegerEnd_cons, if_neg point, if_neg (by simp [lower, upper])]

theorem EndsNumber.startsWithDigit {rest : List Char} (ends : EndsNumber rest) :
    Json.startsWithDigit rest = false := by
  cases rest with
  | nil => rfl
  | cons character rest => exact (ends character rfl).1

/-- The digits of a natural number of 64 bits are read as that number. -/
theorem readNumeral_naturalChars {value : Nat} (fits : value < wordValues) {rest : List Char}
    (ends : EndsNumber rest) (negative : Bool) :
    readNumeral negative (naturalChars value ++ rest) = integerNumber negative value rest := by
  rcases Nat.eq_zero_or_pos value with rfl | positive
  · -- A zero stands alone.
    have zero : naturalChars 0 = ['0'] := rfl
    rw [zero, List.singleton_append, readNumeral_cons, if_pos rfl, ends.startsWithDigit]
    exact readIntegerEnd_of_ends ends negative 0
  · -- The first digit decides, and the others are gathered behind it.
    obtain ⟨first, digits, written, nonzero⟩ := exists_naturalChars_eq_cons positive
    have decimal : ∀ digit ∈ first :: digits, digit.isDigit = true := fun digit member =>
      isDigit_of_mem_naturalChars (written ▸ member)
    have whole : Nat.ofDigitChars 10 digits (digitValue first) = value := by
      have read : Nat.ofDigitChars 10 (naturalChars value) 0 = value :=
        Nat.ofDigitChars_ten_toDigits
      rw [written, Nat.ofDigitChars_cons, Nat.mul_zero, Nat.zero_add] at read
      exact read
    have gathered : gather significandBound (digitValue first) (digits ++ rest) =
        ⟨value, digits.length, rest⟩ := by
      rw [gather_digits (fun digit member => decimal digit (List.mem_cons_of_mem _ member))
        (whole.symm ▸ fits) ends.startsWithDigit, whole]
    rw [written, List.cons_append, readNumeral_cons, if_neg nonzero,
      if_pos (decimal first List.mem_cons_self), gathered]
    dsimp only
    rw [ends.startsWithDigit]
    exact readIntegerEnd_of_ends ends negative value

/-- A natural number of 64 bits is read back. -/
theorem readNumeral_natural {value : Nat} (fits : value < wordValues) {rest : List Char}
    (ends : EndsNumber rest) :
    readNumeral false (naturalChars value ++ rest) = .ok (.integer value, rest) := by
  rw [readNumeral_naturalChars fits ends]
  rfl

/-- A negative integer of 64 bits is read back after its minus. -/
theorem readNumeral_negative {value : Int} (negative : value < 0)
    (fits : -9223372036854775808 ≤ value) {rest : List Char} (ends : EndsNumber rest) :
    readNumeral true (naturalChars value.natAbs ++ rest) = .ok (.integer value, rest) := by
  -- As a negative integer has an absolute value above zero, it is none of the floats.
  have below : value.natAbs < wordValues := by
    rw [wordValues]
    omega
  have same : -(value.natAbs : Int) = value := by omega
  have whole : (decide (0 < value.natAbs) && fitsSignedWord (-(value.natAbs : Int))) = true := by
    simp only [fitsSignedWord, same, Bool.and_eq_true, decide_eq_true_eq]
    omega
  rw [readNumeral_naturalChars below ends, integerNumber, if_neg (by simp), if_pos whole, same]

end PayloadTemplate.Json
