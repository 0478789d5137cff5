import PayloadTemplate.Proofs.Json.Steps

/-!
Escaping the control characters of a text and reading it strictly is the same as reading it
leniently, with control characters inside strings standing for themselves.
-/

namespace PayloadTemplate.Json

/-- A result behind which nothing is left to read. -/
def Resumption.ended (α : Type) : Resumption α :=
  ⟨fun _ => .outside, fun _ => [], fun result _ => result⟩

/-- The end of a text is the same in the escaped text. -/
theorem requireEnd_mirrors {rules : Rules} {α : Type} (value : α) (text : List Char) :
    Mirrors rules (.ended α) .outside text (requireEnd (value, text))
      (requireEnd (value, escapeFrom .outside text)) := by
  -- Spaces are outside of strings, and any other character is a fault of both.
  unfold requireEnd
  dsimp only
  rw [skipSpacing_escapeFrom]
  refine .skipSpacing ?_
  cases skipSpacing text with
  | nil => exact .here rfl rfl
  | cons character rest =>
    rw [escapeFrom_outside_cons]
    exact .fails (by simp)

/-- Whole texts are read alike. -/
theorem readWhole_mirrors (rules : Rules) (text : List Char) :
    Mirrors rules (.ended Value) .outside text (readWhole rules text)
      (readWhole .strict (escapeFrom .outside text)) := by
  -- The same number of steps is enough for the text and for its escaped form.
  let steps := 2 * max text.length (escapeFrom .outside text).length + 1
  rw [readWhole_eq rules (show 2 * text.length < steps by omega),
    readWhole_eq .strict (show 2 * (escapeFrom .outside text).length < steps by omega)]
  exact ((readers_mirror rules steps).1 nestingLimit text).bind fun result _ =>
    requireEnd_mirrors result.1 result.2

/-- Escaping control characters and then reading strictly is lenient reading: the same texts are
accepted, with the same values.  What can be read as it is is not changed, and no control character
is left for strict reading to refuse. -/
theorem read_escapeControls (text : String) :
    (∀ value, read (escapeControls text) = .ok value ↔
        readWhole .lenient text.toList = .ok value) ∧
      (∀ value, read text = .ok value → escapeControls text = text) ∧
      ∀ error, read (escapeControls text) = .error error → error.cause ≠ .controlCharacter := by
  -- Each of the two readings is compared with strict reading of the escaped text.
  have lenient := readWhole_mirrors .lenient text.toList
  have strict := readWhole_mirrors .strict text.toList
  refine ⟨fun value => ?_, fun value accepted => ?_, fun error refused => ?_⟩
  · -- Where lenient reading has a value, strict reading has the same one; where it fails, so does
    -- the other.
    rw [read, mapError_eq_ok_iff, escapeControls_toList]
    generalize readWhole .lenient text.toList = left at lenient
    generalize readWhole .strict (escapeFrom .outside text.toList) = right at lenient
    cases lenient with
    | reads _ _ => rfl
    | fails _ => simp
    | refuses strict => cases strict
  · -- A text that is read strictly is read without anything to escape, so it is its own escaped
    -- form.
    rw [read, mapError_eq_ok_iff] at accepted
    rw [accepted] at strict
    generalize readWhole .strict (escapeFrom .outside text.toList) = right at strict
    cases strict with
    | reads _ unchanged =>
      exact String.toList_inj.mp (by rw [escapeControls_toList, unchanged rfl rfl])
  · -- What both readers refuse is not refused for a control character.
    rw [read, escapeControls_toList] at refused
    generalize readWhole .strict (escapeFrom .outside text.toList) = right at lenient refused
    generalize readWhole .lenient text.toList = left at lenient
    cases lenient with
    | reads _ _ => cases refused
    | fails cause =>
      cases refused
      exact cause
    | refuses strict => cases strict

theorem read_escapeControls_lines :
    (∃ error, read "[\n\"x\ny\\\"\t\"]" = .error error ∧ error.cause = .controlCharacter) ∧
      read (escapeControls "[\n\"x\ny\\\"\t\"]") = .ok (.sequence [.string "x\ny\"\t"]) := by
  constructor
  · simp [read, readWhole, nestingLimit, readValue, readItems, firstMember, skipSpacing, isSpacing,
      readString, readStringChars_cons, followedBy, Bind.bind, Except.bind, Except.mapError,
      Fault.locate, Fault.at]
  · refine ((read_escapeControls "[\n\"x\ny\\\"\t\"]").1 _).mpr ?_
    simp [readWhole, nestingLimit, readValue, readItems, firstMember, nextMember, skipSpacing,
      isSpacing, readString, readStringChars_cons, readStringChars_backslash,
      readStringChars_quote, followedBy, readEscape_letter, shortEscaped?, requireEnd, Bind.bind,
      Except.bind, Pure.pure, Except.pure]

end PayloadTemplate.Json
