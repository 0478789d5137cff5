import PayloadTemplate.Proofs.Json.Printable
import PayloadTemplate.Proofs.Render.Limit
import PayloadTemplate.Reformat

/-!
A value that a template refers to is what is read from the text that the template is rendered to.
-/

namespace PayloadTemplate

open Json Render Template

/-- Sequences, maps, numbers and truth values are rendered as JSON text. -/
theorem Value.text_toList {value : Value} (present : value.kind ≠ .null)
    (structured : value.kind ≠ .string) :
    value.text.toList = valueChars .spacedAscii value := by
  -- Only the missing value and a text are not written as JSON.
  cases value with
  | null => exact absurd rfl present
  | string value => exact absurd rfl structured
  | _ => exact String.toList_ofList

namespace Engine

/-- Output that escaping turns into the text of an exact value is read as that value. -/
theorem readOutput_of_escaped {text : String} {style : Style} {value : Value}
    (escaped : (escapeControls text).toList = valueChars style value) (regular : style.Regular)
    (exact : Exact nestingLimit value) : readOutput text = .ok value := by
  rw [readOutput, mapError_eq_ok_iff, Json.read, mapError_eq_ok_iff, escaped]
  exact readWhole_valueChars regular exact .strict

/-- The text of an exact value is read as that value, without a change by escaping. -/
theorem readOutput_text {value : Value} (exact : Exact nestingLimit value)
    (present : value.kind ≠ .null) (structured : value.kind ≠ .string) :
    readOutput value.text = .ok value := by
  have text := value.text_toList present structured
  -- There is no control character to escape.
  have unchanged : (escapeControls value.text).toList = valueChars .spacedAscii value := by
    rw [escapeControls_toList, text]
    exact escapeFrom_eq_self _ fun character member => (exact.printable character member).1
  exact readOutput_of_escaped unchanged regular_spacedAscii exact

/-- What a source is rendered to is read as JSON. -/
theorem reformat_of_rendered {engine : Engine} {source text : String} {payload : Value}
    {definitions : Option Lookup}
    (rendered : (engine.tryRender source payload definitions).outcome = .ok (some text)) :
    (engine.reformat source payload definitions).value = readOutput text := by
  -- What is rendered without an error is what is read.
  have produced : (engine.render source payload definitions).value = some text := by
    have outcome : (engine.tryRender source payload definitions).run.value = .ok (some text) :=
      rendered
    rw [render, Logged.value_bind, outcome]
    rfl
  rw [reformat, Logged.value_bind, produced]
  rfl

/-- A reference to a truth value, an integer, a sequence or a map in the payload, whose numbers are
integers and which is not nested too deeply, is rendered to ASCII text without control characters,
and reading that text as JSON gives the value back. -/
theorem reformat_reference (engine : Engine) (payload : Value) (definitions : Option Lookup)
    {path : String} {value : Value} (spelled : path? path.toList = some path.toList)
    (root : pathRoot path = "data")
    (resolved : follow [] (pathSegments path) payload = some value)
    (exact : Exact nestingLimit value) (present : value.kind ≠ .null)
    (structured : value.kind ≠ .string) :
    (engine.tryRender ("$\x7b" ++ path ++ "\x7d") payload definitions).outcome =
        .ok (some value.text) ∧
      (∀ character ∈ value.text.toList, Printable character) ∧
      (engine.reformat ("$\x7b" ++ path ++ "\x7d") payload definitions).value = .ok value := by
  have nonempty : "$\x7b" ++ path ++ "\x7d" ≠ "" := by
    intro empty
    have characters := congrArg String.toList empty
    simp at characters
  -- Outside all loops the path has its value without bindings.
  have found : (engine.valuesAt payload definitions 0 path []).outcome = .ok value := by
    rw [valuesAt, resolve_data root, resolved]
    rfl
  have rendered : (engine.tryRender ("$\x7b" ++ path ++ "\x7d") payload definitions).outcome =
      .ok (some value.text) := by
    rw [tryRender_reference nonempty (itemsOf_braced spelled), found]
    rfl
  refine ⟨rendered, ?_, ?_⟩
  · rw [value.text_toList present structured]
    exact exact.printable
  · -- The text is that of the value, whose numbers and levels are within the bounds of the reader.
    rw [reformat_of_rendered rendered, readOutput_text exact present structured]

/-- The largest and the smallest integer, and texts and keys with all that has to be escaped. -/
def assortment : Value :=
  .map [("z\"\\", .sequence [.number (.integer 18446744073709551615), .null,
    .number (.integer (-9223372036854775808))]), ("\n", .string "\x01é😀/"), ("", .map [])]

/-- A payload in which a sequence holds such a value. -/
def wrapped : Value :=
  .map [("list", .sequence [.string "", assortment])]

theorem reformat_reference_assortment :
    follow [] (pathSegments "data.list.1") wrapped = some assortment ∧
      Exact nestingLimit assortment ∧
      assortment.text = "\x7b\"z\\\"\\\\\": [18446744073709551615, null, -9223372036854775808], " ++
        "\"\\n\": \"\\u0001\\u00e9\\ud83d\\ude00/\", \"\": \x7b\x7d\x7d" ∧
      (standard.reformat ("$\x7b" ++ "data.list.1" ++ "\x7d") wrapped none).value =
        .ok assortment := by
  have resolved : follow [] (pathSegments "data.list.1") wrapped = some assortment := rfl
  -- Each part is exact one level below the whole.
  have exact : Exact nestingLimit assortment := by
    refine .map (by decide) ?_
    simp only [List.forall_mem_cons]
    refine ⟨.sequence ?_, .string _, .map (by decide) (by simp), by simp⟩
    simp only [List.forall_mem_cons]
    exact ⟨.integer (by decide) (by decide), .null, .integer (by decide) (by decide), by simp⟩
  refine ⟨resolved, exact, by decide +kernel, ?_⟩
  exact (reformat_reference standard wrapped none (by decide +kernel) (by decide +kernel) resolved
    exact (by decide) (by decide)).2.2

end Engine

end PayloadTemplate
