import PayloadTemplate.Proofs.Json.Controls
import PayloadTemplate.Proofs.Json.Fronts
import PayloadTemplate.Proofs.Outcome

/-!
Reading a text and strictly reading its escaped form, side by side.  The two go through the same
places as long as they agree where strings begin and end.
-/

namespace PayloadTemplate.Json

@[simp] theorem Fault.before_cause (cause : Cause) (rest : List Char) :
    (Fault.before cause rest).cause = cause := rfl

@[simp] theorem Fault.at_cause (cause : Cause) (rest : List Char) :
    (Fault.at cause rest).cause = cause := rfl

/-! ## Reading side by side -/

/-- How a result of reading says where reading goes on. -/
structure Resumption (α : Type) where
  /-- The region in which it goes on. -/
  region : α → Region
  /-- The text that is left. -/
  rest : α → List Char
  /-- The result when something else is left. -/
  leaving : α → List Char → α

namespace Resumption

variable {α : Type}

/-- The result of reading the escaped text: the same, and the rest is escaped as well. -/
def escaped (resumption : Resumption α) (result : α) : α :=
  resumption.leaving result (escapeFrom (resumption.region result) (resumption.rest result))

/-- A value and the rest of the text, in a given region. -/
def behind (α : Type) (region : Region) : Resumption (α × List Char) :=
  ⟨fun _ => region, Prod.snd, fun result rest => (result.1, rest)⟩

/-- Nothing but the rest of the text, outside strings. -/
def alone : Resumption (List Char) :=
  ⟨fun _ => .outside, id, fun _ rest => rest⟩

/-- A further member of a sequence, or what follows its end. -/
def listNext : Resumption ListNext where
  region _ := .outside
  rest
    | .member text => text
    | .finished rest => rest
  leaving
    | .member _, text => .member text
    | .finished _, rest => .finished rest

/-- A further key of a map, whose opening quote has been taken, or what follows its end. -/
def objectNext : Resumption ObjectNext where
  region
    | .key _ => .inside
    | .finished _ => .outside
  rest
    | .key text => text
    | .finished rest => rest
  leaving
    | .key _, text => .key text
    | .finished _, rest => .finished rest

end Resumption

/-- How strict reading of an escaped text mirrors reading of the text itself, which stands in a
given region.  No more is left than there was. -/
inductive Mirrors (rules : Rules) {α : Type} (resumption : Resumption α) (region : Region)
    (text : List Char) : Except Fault α → Except Fault α → Prop where
  /-- Both have the same result.  What strict reading has passed over was not changed. -/
  | reads {result : α} (shorter : (resumption.rest result).length ≤ text.length)
      (unchanged : rules = .strict →
        escapeFrom (resumption.region result) (resumption.rest result) = resumption.rest result →
          escapeFrom region text = text) :
      Mirrors rules resumption region text (.ok result) (.ok (resumption.escaped result))
  /-- Both fail, and not because of a control character. -/
  | fails {fault other : Fault} (cause : other.cause ≠ .controlCharacter) :
      Mirrors rules resumption region text (.error fault) (.error other)
  /-- Strict reading may refuse what can be read when it is escaped. -/
  | refuses {fault : Fault} {outcome : Except Fault α} (strict : rules = .strict) :
      Mirrors rules resumption region text (.error fault) outcome

namespace Mirrors

variable {rules : Rules} {α β : Type} {resumption : Resumption α} {later : Resumption β}
variable {region first : Region} {text rest : List Char} {character : Char}
variable {left right : Except Fault α}

/-- Nothing has been read yet. -/
theorem here {result : α} (same : resumption.region result = region)
    (all : resumption.rest result = text) :
    Mirrors rules resumption region text (.ok result) (.ok (resumption.escaped result)) :=
  .reads (Nat.le_of_eq (congrArg List.length all)) fun _ unchanged => same ▸ all ▸ unchanged

/-- Reading may have begun earlier. -/
theorem since (mirrors : Mirrors rules resumption region rest left right)
    (shorter : rest.length ≤ text.length)
    (unchanged : rules = .strict → escapeFrom region rest = rest → escapeFrom first text = text) :
    Mirrors rules resumption first text left right := by
  -- The outcome is the same; only where the reading began is further away.
  cases mirrors with
  | reads less same =>
    exact .reads (Nat.le_trans less shorter) fun strict after =>
      unchanged strict (same strict after)
  | fails cause => exact .fails cause
  | refuses strict => exact .refuses strict

/-- One computation after the other. -/
theorem bind {next other : α → Except Fault β}
    (mirrors : Mirrors rules resumption region text left right)
    (each : ∀ result, left = .ok result → Mirrors rules later (resumption.region result)
      (resumption.rest result) (next result) (other (resumption.escaped result))) :
    Mirrors rules later region text (left >>= next) (right >>= other) := by
  -- What the first reader leaves is where the second one begins, and a failure has no second.
  cases mirrors with
  | reads shorter unchanged => exact (each _ rfl).since shorter unchanged
  | fails cause => exact .fails cause
  | refuses strict => exact .refuses strict

/-- A test decides for both readers. -/
theorem ite {test : Prop} [Decidable test] {other another : Except Fault α}
    (yes : test → Mirrors rules resumption region text left right)
    (no : ¬test → Mirrors rules resumption region text other another) :
    Mirrors rules resumption region text (if test then left else other)
      (if test then right else another) := by
  -- The test is the same on both sides, so both take the same branch.
  split
  · rename_i holds
    exact yes holds
  · rename_i fails
    exact no fails

/-- A character that stays as it is has been read. -/
theorem step (mirrors : Mirrors rules resumption (region.after character) rest left right)
    (kept : ¬(region = .inside ∧ character.toNat < 0x20)) :
    Mirrors rules resumption region (character :: rest) left right := by
  refine mirrors.since (Nat.le_succ _) fun _ unchanged => ?_
  rw [escapeFrom_cons kept, unchanged]

/-- Outside strings, any character has been read. -/
theorem cons (mirrors : Mirrors rules resumption (Region.outside.after character) rest left right) :
    Mirrors rules resumption .outside (character :: rest) left right :=
  mirrors.step (by simp)

/-- Characters that are passed over have been read. -/
theorem skip {run : List Char} (mirrors : Mirrors rules resumption region rest left right)
    (keeps : ∀ character ∈ run, region.Keeps character) :
    Mirrors rules resumption region (run ++ rest) left right := by
  refine mirrors.since (by simp) fun _ unchanged => ?_
  rw [escapeFrom_append keeps, unchanged]

/-- Outside strings, a run of characters other than quotes has been read. -/
theorem pass {run : List Char} (mirrors : Mirrors rules resumption .outside rest left right)
    (quote : '"' ∉ run) : Mirrors rules resumption .outside (run ++ rest) left right :=
  mirrors.skip fun _ member => Region.outside_keeps fun same => quote (same ▸ member)

/-- Both readers may be compared by what they accept. -/
theorem of_iff (reads : ∀ result, left = .ok result →
      right = .ok (resumption.escaped result) ∧
        Mirrors rules resumption region text left (.ok (resumption.escaped result)))
    (back : ∀ other, right = .ok other → ∃ result, left = .ok result)
    (cause : ∀ fault, right = .error fault → fault.cause ≠ .controlCharacter) :
    Mirrors rules resumption region text left right := by
  -- Either both read something, which the hypotheses compare, or both fail.
  cases left with
  | ok result =>
    obtain ⟨rfl, mirrors⟩ := reads result rfl
    exact mirrors
  | error fault =>
    cases right with
    | ok other =>
      obtain ⟨result, impossible⟩ := back other rfl
      cases impossible
    | error other => exact .fails (cause other rfl)

/-- Reading leaves no more than there was. -/
theorem shorter {result : α} (mirrors : Mirrors rules resumption region text (.ok result) right) :
    (resumption.rest result).length ≤ text.length := by
  cases mirrors with
  | reads shorter _ => exact shorter

end Mirrors

/-! ## Layout -/

section Layout

variable {rules : Rules} {text : List Char}

/-- A quote belongs to no run of characters that a test passes over. -/
theorem escapeFrom_dropWhile {test : Char → Bool} (quote : test '"' = false) (text : List Char) :
    (escapeFrom .outside text).takeWhile test = text.takeWhile test ∧
      (escapeFrom .outside text).dropWhile test = escapeFrom .outside (text.dropWhile test) := by
  -- A character that passes is no quote, so the scanner is still outside behind it.
  induction text with
  | nil => exact ⟨rfl, rfl⟩
  | cons character rest ih =>
    rw [escapeFrom_outside_cons, List.takeWhile_cons, List.takeWhile_cons, List.dropWhile_cons,
      List.dropWhile_cons]
    split
    · rename_i passes
      have other : character ≠ '"' := by
        rintro rfl
        rw [quote] at passes
        cases passes
      rw [Region.outside_after other, ih.1, ih.2]
      exact ⟨rfl, rfl⟩
    · -- The first character that does not pass ends both runs.
      exact ⟨rfl, (escapeFrom_outside_cons _ _).symm⟩

/-- A run of characters that a test passes over has been read. -/
theorem Mirrors.dropWhile {α : Type} {resumption : Resumption α} {left right : Except Fault α}
    {test : Char → Bool} (quote : test '"' = false)
    (mirrors : Mirrors rules resumption .outside (text.dropWhile test) left right) :
    Mirrors rules resumption .outside text left right := by
  -- The quote does not pass the test, so it is not among the characters that are dropped.
  rw [← List.takeWhile_append_dropWhile (p := test) (l := text)]
  refine mirrors.pass fun member => ?_
  have passes := List.all_eq_true.mp List.all_takeWhile _ member
  rw [quote] at passes
  cases passes

/-- Spacing is the same in the escaped text. -/
theorem skipSpacing_escapeFrom (text : List Char) :
    skipSpacing (escapeFrom .outside text) = escapeFrom .outside (skipSpacing text) :=
  (escapeFrom_dropWhile rfl text).2

/-- Spacing has been skipped. -/
theorem Mirrors.skipSpacing {α : Type} {resumption : Resumption α} {left right : Except Fault α}
    (mirrors : Mirrors rules resumption .outside (Json.skipSpacing text) left right) :
    Mirrors rules resumption .outside text left right :=
  .dropWhile rfl mirrors

/-- Words are read alike. -/
theorem readWord_mirrors {word : List Char} (quote : '"' ∉ word) (text : List Char) :
    Mirrors rules .alone .outside text (readWord word text)
      (readWord word (escapeFrom .outside text)) := by
  -- The word has no quote, so the scanner stays outside as long as the letters agree.
  induction word generalizing text with
  | nil => exact .here rfl rfl
  | cons expected word ih =>
    simp only [List.mem_cons, not_or] at quote
    cases text with
    | nil => exact .fails (by simp)
    | cons character rest =>
      rw [escapeFrom_outside_cons, readWord, readWord]
      split
      · rename_i same
        have other : character ≠ '"' := fun same' => quote.1 (same' ▸ same)
        refine .cons ?_
        rw [Region.outside_after other]
        exact ih quote.2 rest
      · -- A letter that differs is a fault of both readers.
        exact .fails (by simp)

/-- The first character is the same in the escaped text. -/
theorem Mirrors.front {α : Type} {resumption : Resumption α} {absent : Fault}
    {present other : Char → List Char → Except Fault α} (cause : absent.cause ≠ .controlCharacter)
    (each : ∀ character rest, Mirrors rules resumption .outside (character :: rest)
      (present character rest)
      (other character (escapeFrom (Region.outside.after character) rest)))
    (text : List Char) :
    Mirrors rules resumption .outside text (Json.front absent present text)
      (Json.front absent other (escapeFrom .outside text)) := by
  -- Outside a string the first character is never escaped.
  cases text with
  | nil => exact .fails cause
  | cons character rest =>
    rw [escapeFrom_outside_cons]
    exact each character rest

/-- Colons are read alike. -/
theorem readColon_mirrors (text : List Char) :
    Mirrors rules .alone .outside text (readColon text)
      (readColon (escapeFrom .outside text)) := by
  -- Spaces are skipped on both sides, and the colon is no quote.
  rw [readColon_eq, readColon_eq, skipSpacing_escapeFrom]
  refine .skipSpacing (.front (by simp) (fun character rest => ?_) _)
  refine .ite (fun colon => ?_) fun _ => .fails (by simp)
  subst colon
  exact .cons (.here rfl rfl)

/-- The first member of a sequence is looked for alike. -/
theorem firstMember_mirrors (text : List Char) :
    Mirrors rules .listNext .outside text (firstMember text)
      (firstMember (escapeFrom .outside text)) := by
  rw [firstMember_eq, firstMember_eq, skipSpacing_escapeFrom]
  refine .skipSpacing (.front (by simp) (fun character rest => ?_) _)
  refine .ite (fun close => ?_) fun _ => ?_
  · subst close
    exact .cons (.here rfl rfl)
  · -- The character belongs to the member and is not taken yet.
    rw [← escapeFrom_outside_cons]
    exact .here rfl rfl

/-- A member of a sequence is looked for alike after a comma. -/
theorem memberAfterComma_mirrors (text : List Char) :
    Mirrors rules .listNext .outside text (memberAfterComma text)
      (memberAfterComma (escapeFrom .outside text)) := by
  -- Only a bracket is refused here; any other character begins the member on both sides.
  rw [memberAfterComma, memberAfterComma, skipSpacing_escapeFrom]
  refine .skipSpacing (.front (by simp) (fun character rest => ?_) _)
  refine .ite (fun _ => .fails (by simp)) fun _ => ?_
  rw [← escapeFrom_outside_cons]
  exact .here rfl rfl

/-- A further member of a sequence is looked for alike. -/
theorem nextMember_mirrors (text : List Char) :
    Mirrors rules .listNext .outside text (nextMember text)
      (nextMember (escapeFrom .outside text)) := by
  -- Neither the bracket nor the comma changes the region.
  rw [nextMember_eq, nextMember_eq, skipSpacing_escapeFrom]
  refine .skipSpacing (.front (by simp) (fun character rest => ?_) _)
  refine .ite (fun close => ?_) fun _ => .ite (fun comma => ?_) fun _ => .fails (by simp)
  · subst close
    exact .cons (.here rfl rfl)
  · subst comma
    exact .cons (memberAfterComma_mirrors rest)

/-- The first key of a map is looked for alike. -/
theorem firstKey_mirrors (text : List Char) :
    Mirrors rules .objectNext .outside text (firstKey text)
      (firstKey (escapeFrom .outside text)) := by
  -- The object ends, or a quote begins the key and enters the string.
  rw [firstKey_eq, firstKey_eq, skipSpacing_escapeFrom]
  refine .skipSpacing (.front (by simp) (fun character rest => ?_) _)
  refine .ite (fun close => ?_) fun _ => .ite (fun quote => ?_) fun _ => .fails (by simp)
  · subst close
    exact .cons (.here rfl rfl)
  · subst quote
    exact .cons (.here rfl rfl)

/-- A key of a map is looked for alike after a comma. -/
theorem keyAfterComma_mirrors (text : List Char) :
    Mirrors rules .objectNext .outside text (keyAfterComma text)
      (keyAfterComma (escapeFrom .outside text)) := by
  -- A quote begins the key; whatever else stands there is a fault of both readers.
  rw [keyAfterComma, keyAfterComma, skipSpacing_escapeFrom]
  refine .skipSpacing (.front (by simp) (fun character rest => ?_) _)
  refine .ite (fun quote => ?_) fun _ =>
    .ite (fun _ => .fails (by simp)) fun _ => .fails (by simp)
  subst quote
  exact .cons (.here rfl rfl)

/-- A further key of a map is looked for alike. -/
theorem nextKey_mirrors (text : List Char) :
    Mirrors rules .objectNext .outside text (nextKey text)
      (nextKey (escapeFrom .outside text)) := by
  -- Neither the brace nor the comma changes the region.
  rw [nextKey_eq, nextKey_eq, skipSpacing_escapeFrom]
  refine .skipSpacing (.front (by simp) (fun character rest => ?_) _)
  refine .ite (fun close => ?_) fun _ => .ite (fun comma => ?_) fun _ => .fails (by simp)
  · subst close
    exact .cons (.here rfl rfl)
  · subst comma
    exact .cons (keyAfterComma_mirrors rest)

end Layout

/-! ## Numbers -/

section Numbers

variable {rules : Rules}

/-- No digit begins a string. -/
theorem outside_after_digit {digit : Char} (decimal : digit.isDigit = true) :
    Region.outside.after digit = .outside := by
  -- Only a quote leads into a string, and it is no digit.
  refine Region.outside_after ?_
  rintro rfl
  exact absurd decimal (by decide)

/-- Gathering digits leaves a run of them behind, and the same is gathered from the escaped
text. -/
theorem gather_escapeFrom (bound value : Nat) (text : List Char) :
    (∃ run, text = run ++ (gather bound value text).rest ∧ ∀ digit ∈ run, digit.isDigit) ∧
      gather bound value (escapeFrom .outside text) =
        ⟨(gather bound value text).value, (gather bound value text).count,
          escapeFrom .outside (gather bound value text).rest⟩ := by
  -- Digits are taken one after the other, and none of them is a quote.
  induction text generalizing value with
  | nil => exact ⟨⟨[], rfl, by simp⟩, rfl⟩
  | cons character rest ih =>
    rw [escapeFrom_outside_cons, gather, gather]
    dsimp only
    split
    · rename_i taken
      rw [Bool.and_eq_true] at taken
      obtain ⟨⟨run, split, digits⟩, same⟩ := ih (value * 10 + digitValue character)
      rw [outside_after_digit taken.1, same]
      refine ⟨⟨character :: run, congrArg _ split, ?_⟩, rfl⟩
      rw [List.forall_mem_cons]
      exact ⟨taken.1, digits⟩
    · -- What follows the digits is left for both.
      exact ⟨⟨[], rfl, by simp⟩, by rw [escapeFrom_outside_cons]⟩

/-- Digits have been gathered. -/
theorem Mirrors.gather {α : Type} {resumption : Resumption α} {left right : Except Fault α}
    {text : List Char} (bound value : Nat)
    (mirrors : Mirrors rules resumption .outside (Json.gather bound value text).rest left right) :
    Mirrors rules resumption .outside text left right := by
  -- No digit is a quote, so the run is passed outside of strings.
  obtain ⟨run, split, digits⟩ := (gather_escapeFrom bound value text).1
  rw [split]
  exact mirrors.pass fun member => absurd (digits _ member) (by decide)

/-- The first character tells whether a text begins with a digit. -/
@[simp] theorem startsWithDigit_escapeFrom (text : List Char) :
    startsWithDigit (escapeFrom .outside text) = startsWithDigit text := by
  -- The first character outside a string is never escaped.
  cases text with
  | nil => rfl
  | cons character rest => rw [escapeFrom_outside_cons]; rfl

/-- The sign of an exponent is the same in the escaped text. -/
theorem exponentSign_escapeFrom (text : List Char) :
    exponentSign (escapeFrom .outside text) =
        ((exponentSign text).1, escapeFrom .outside (exponentSign text).2) ∧
      ∃ run, text = run ++ (exponentSign text).2 ∧ '"' ∉ run := by
  -- A sign is passed as it is, and without one nothing is passed.
  cases text with
  | nil => exact ⟨rfl, [], rfl, by simp⟩
  | cons character rest =>
    rw [escapeFrom_outside_cons, exponentSign_cons, exponentSign_cons]
    split
    · rename_i plus
      subst plus
      exact ⟨rfl, ['+'], rfl, by simp⟩
    · split
      · rename_i minus
        subst minus
        exact ⟨rfl, ['-'], rfl, by simp⟩
      · -- Any other character belongs to the digits.
        exact ⟨by rw [escapeFrom_outside_cons], [], rfl, by simp⟩

/-- The sign of an exponent has been read. -/
theorem Mirrors.exponentSign {α : Type} {resumption : Resumption α} {left right : Except Fault α}
    {text : List Char}
    (mirrors : Mirrors rules resumption .outside (Json.exponentSign text).2 left right) :
    Mirrors rules resumption .outside text left right := by
  -- What is passed is a sign or nothing, so there is no quote in it.
  obtain ⟨run, split, quote⟩ := (exponentSign_escapeFrom text).2
  rw [split]
  exact mirrors.pass quote

/-- Floats are completed alike. -/
theorem finishFloat_mirrors (negative : Bool) (significand : Nat) (exponent : Int)
    (text : List Char) :
    Mirrors rules (.behind Number .outside) .outside text
      (finishFloat negative significand exponent text)
      (finishFloat negative significand exponent (escapeFrom .outside text)) := by
  -- Whether the number is finite has nothing to do with the text behind it.
  unfold finishFloat
  split
  · exact .here rfl rfl
  · exact .fails (by simp)

/-- Exponents are read alike. -/
theorem readExponent_mirrors (negative : Bool) (significand : Nat) (point : Int)
    (text : List Char) :
    Mirrors rules (.behind Number .outside) .outside text
      (readExponent negative significand point text)
      (readExponent negative significand point (escapeFrom .outside text)) := by
  -- The sign of the exponent is read first, and it may be missing.
  unfold readExponent
  rw [(exponentSign_escapeFrom text).1]
  refine .exponentSign ?_
  generalize exponentSign text = sign
  obtain ⟨below, digits⟩ := sign
  dsimp only
  cases digits with
  | nil => exact .fails (by simp)
  | cons first rest =>
    -- The first character decides, but the digits are gathered from all of the text.
    have gathered := (gather_escapeFrom exponentBound 0 (first :: rest)).2
    rw [escapeFrom_outside_cons] at gathered ⊢
    dsimp only
    rw [gathered]
    split
    · exact .fails (by simp)
    · refine .gather exponentBound 0 ?_
      generalize gather exponentBound 0 (first :: rest) = exponent
      obtain ⟨value, count, rest⟩ := exponent
      cases rest with
      | nil => exact finishFloat_mirrors _ _ _ _
      | cons next rest =>
        dsimp only
        rw [escapeFrom_outside_cons]
        dsimp only
        split
        · -- An exponent beyond the bound is refused or makes a zero behind all of its digits.
          rename_i digit
          rw [outside_after_digit digit]
          split
          · exact .fails (by simp)
          · rw [(escapeFrom_dropWhile (by decide) rest).2]
            refine .cons ?_
            rw [outside_after_digit digit]
            exact .dropWhile (by decide) (.here rfl rfl)
        · -- Anything but a digit ends the exponent.
          rw [← escapeFrom_outside_cons]
          exact finishFloat_mirrors _ _ _ _

/-- What follows the digits of a float is read alike. -/
theorem readFloatEnd_mirrors (negative : Bool) (significand : Nat) (point : Int)
    (text : List Char) :
    Mirrors rules (.behind Number .outside) .outside text
      (readFloatEnd negative significand point text)
      (readFloatEnd negative significand point (escapeFrom .outside text)) := by
  -- An exponent mark is passed as it is, and anything else is left behind the number.
  cases text with
  | nil => exact finishFloat_mirrors _ _ _ _
  | cons character rest =>
    rw [escapeFrom_outside_cons, readFloatEnd_cons, readFloatEnd_cons]
    refine .ite (fun mark => ?_) fun _ => ?_
    · rcases mark with rfl | rfl
      · exact .cons (readExponent_mirrors _ _ _ _)
      · exact .cons (readExponent_mirrors _ _ _ _)
    · rw [← escapeFrom_outside_cons]
      exact finishFloat_mirrors _ _ _ _

/-- Fractions are read alike. -/
theorem readFraction_mirrors (negative : Bool) (significand : Nat) (point : Int)
    (text : List Char) :
    Mirrors rules (.behind Number .outside) .outside text
      (readFraction negative significand point text)
      (readFraction negative significand point (escapeFrom .outside text)) := by
  unfold readFraction
  rw [(gather_escapeFrom significandBound significand text).2]
  dsimp only
  rw [startsWithDigit_escapeFrom]
  split
  · -- Digits that do not fit any more are passed over.
    rw [(escapeFrom_dropWhile (by decide) _).2]
    exact .gather _ _ (.dropWhile (by decide) (readFloatEnd_mirrors _ _ _ _))
  · split
    · exact .fails (by split <;> simp)
    · exact .gather _ _ (readFloatEnd_mirrors _ _ _ _)

/-- Integers are completed alike. -/
theorem integerNumber_mirrors (negative : Bool) (value : Nat) (text : List Char) :
    Mirrors rules (.behind Number .outside) .outside text (integerNumber negative value text)
      (integerNumber negative value (escapeFrom .outside text)) := by
  -- How large the value is decides its kind, and the text behind it is left alone.
  unfold integerNumber
  split
  · exact .here rfl rfl
  · split
    · exact .here rfl rfl
    · exact finishFloat_mirrors _ _ _ _

/-- What follows the digits before the point is read alike. -/
theorem readIntegerEnd_mirrors (negative : Bool) (value : Nat) (text : List Char) :
    Mirrors rules (.behind Number .outside) .outside text (readIntegerEnd negative value text)
      (readIntegerEnd negative value (escapeFrom .outside text)) := by
  -- A point and an exponent mark are passed as they are.
  cases text with
  | nil => exact integerNumber_mirrors _ _ _
  | cons character rest =>
    rw [escapeFrom_outside_cons, readIntegerEnd_cons, readIntegerEnd_cons]
    refine .ite (fun point => ?_) fun _ => .ite (fun mark => ?_) fun _ => ?_
    · subst point
      exact .cons (readFraction_mirrors _ _ _ _)
    · rcases mark with rfl | rfl
      · exact .cons (readExponent_mirrors _ _ _ _)
      · exact .cons (readExponent_mirrors _ _ _ _)
    · -- Without either the number has been read.
      rw [← escapeFrom_outside_cons]
      exact integerNumber_mirrors _ _ _

/-- What follows digits beyond 64 bits is read alike. -/
theorem readLongIntegerEnd_mirrors (negative : Bool) (value places : Nat) (text : List Char) :
    Mirrors rules (.behind Number .outside) .outside text
      (readLongIntegerEnd negative value places text)
      (readLongIntegerEnd negative value places (escapeFrom .outside text)) := by
  -- The cases are those of a shorter integer, with the further digits as places.
  cases text with
  | nil => exact finishFloat_mirrors _ _ _ _
  | cons character rest =>
    rw [escapeFrom_outside_cons, readLongIntegerEnd_cons, readLongIntegerEnd_cons]
    refine .ite (fun point => ?_) fun _ => .ite (fun mark => ?_) fun _ => ?_
    · subst point
      exact .cons (readFraction_mirrors _ _ _ _)
    · rcases mark with rfl | rfl
      · exact .cons (readExponent_mirrors _ _ _ _)
      · exact .cons (readExponent_mirrors _ _ _ _)
    · rw [← escapeFrom_outside_cons]
      exact finishFloat_mirrors _ _ _ _

/-- Numbers are read alike. -/
theorem readNumeral_mirrors (negative : Bool) (text : List Char) :
    Mirrors rules (.behind Number .outside) .outside text (readNumeral negative text)
      (readNumeral negative (escapeFrom .outside text)) := by
  -- Only digits can begin a numeral, and they do not change the region.
  cases text with
  | nil => exact .fails (by simp)
  | cons first rest =>
    rw [escapeFrom_outside_cons, readNumeral_cons, readNumeral_cons]
    split
    · rename_i zero
      subst zero
      -- A zero must not be followed by another digit.
      rw [Region.outside_after (by decide), startsWithDigit_escapeFrom]
      split
      · exact .fails (by simp)
      · exact .cons (readIntegerEnd_mirrors _ _ _)
    · split
      · rename_i digit
        rw [outside_after_digit digit, (gather_escapeFrom _ _ rest).2]
        dsimp only
        rw [startsWithDigit_escapeFrom]
        refine .cons ?_
        rw [outside_after_digit digit]
        split
        · -- Beyond 64 bits only the number of the further digits counts.
          obtain ⟨taken, dropped⟩ := escapeFrom_dropWhile (show Char.isDigit '"' = false by decide)
            (gather significandBound (digitValue first) rest).rest
          rw [taken, dropped]
          exact .gather _ _ (.dropWhile (by decide) (readLongIntegerEnd_mirrors _ _ _ _))
        · exact .gather _ _ (readIntegerEnd_mirrors _ _ _)
      · exact .fails (by simp)

end Numbers

end PayloadTemplate.Json
