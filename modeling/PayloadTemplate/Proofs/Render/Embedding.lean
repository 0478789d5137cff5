import PayloadTemplate.Proofs.Render.Framing
import PayloadTemplate.Proofs.Render.Rereading

/-!
Texts of a payload that are put between the quotes of a JSON document.  Without quotes and
backslashes they arrive as they are, control characters included.
-/

namespace PayloadTemplate

open Json Render Template

/-- A member of a document: a key, and a hole between quotes. -/
structure Slot extends Hole where
  /-- The key. -/
  key : String
  deriving DecidableEq, Repr

/-- The member with something in its hole. -/
def Slot.member (content : Hole → String) (slot : Slot) : String :=
  "\"" ++ slot.key ++ "\": \"" ++ content slot.toHole ++ "\""

/-- The document with the given members. -/
def document (content : Hole → String) (slots : List Slot) : String :=
  "\x7b" ++ ", ".intercalate (slots.map (Slot.member content)) ++ "\x7d"

/-- The map that the document is meant to be. -/
def documentEntries (slots : List Slot) : List (String × Value) :=
  slots.map fun slot => (slot.key, .string slot.text)

/-! ## The document as a text with gaps -/

/-- The gap of a member, with its key and some text before the member in front. -/
def Slot.gap (run : List Char) (slot : Slot) : Gap :=
  ⟨slot.toHole, run ++ '"' :: (slot.key.toList ++ ['"', ':', ' ', '"'])⟩

/-- The gaps of the members, of which the first stands behind the given text. -/
def gapsBehind (run : List Char) : List Slot → List Gap
  | [] => []
  | slot :: rest => slot.gap run :: gapsBehind ['"', ',', ' '] rest

/-- What stands behind the last gap. -/
def documentEnd : List Slot → List Char
  | [] => ['\x7b', '\x7d']
  | _ :: _ => ['"', '\x7d']

/-- A document consists of its gaps and the text between them. -/
theorem document_toList (content : Hole → String) (slots : List Slot) :
    (document content slots).toList =
      Gap.fill content (documentEnd slots) (gapsBehind ['\x7b'] slots) := by
  -- Without members only the braces are left.
  cases slots with
  | nil => simp [document, gapsBehind, documentEnd, Gap.fill]
  | cons slot rest =>
    -- The text in front of the first member is an opening brace, and later a quote and a comma.
    have general : ∀ run, run ++ ([',', ' '].intercalate
        (((slot :: rest).map (Slot.member content)).map String.toList) ++ ['\x7d']) =
          Gap.fill content ['"', '\x7d'] (gapsBehind run (slot :: rest)) := by
      induction rest generalizing slot with
      | nil => intro run; simp [gapsBehind, Gap.fill, Slot.gap, Slot.member]
      | cons next later ih =>
        intro run
        rw [gapsBehind, Gap.fill, ← ih]
        simp [Slot.gap, Slot.member, List.intercalate_cons_cons]
    simpa [document, documentEnd] using general ['\x7b']

/-! ## Reading the document -/

/-- A blank after each separator, and characters beyond ASCII as they are. -/
def Json.Style.spaced : Style := ⟨[',', ' '], [':', ' '], false⟩

theorem Json.regular_spaced : Style.spaced.Regular :=
  ⟨⟨[' '], rfl, rfl⟩, ⟨[' '], rfl, rfl⟩⟩

theorem Json.unicode_spaced : Style.spaced.asciiOnly = false := rfl

/-- Neither the key nor the text leaves the quotes that it is put between. -/
structure Slot.Quotable (slot : Slot) : Prop where
  /-- The key stays between its quotes. -/
  key : ∀ character ∈ slot.key.toList, Json.Quotable character
  /-- The text stays between its quotes. -/
  text : ∀ character ∈ slot.text.toList, Json.Quotable character

/-- Escaping writes the key and the text of a member as the writer would. -/
theorem Slot.Quotable.escapeFrom_member {slot : Slot} (quotable : slot.Quotable)
    (rest : List Char) :
    escapeFrom .outside ((slot.member Hole.text).toList ++ rest) =
      stringChars .spaced slot.key ++ Style.spaced.colon ++
        valueChars .spaced (.string slot.text) ++ escapeFrom .outside rest := by
  -- Between the two strings stand a colon and a blank.
  have shape : (slot.member Hole.text).toList ++ rest =
      '"' :: (slot.key.toList ++ '"' :: ':' :: ' ' ::
        '"' :: (slot.text.toList ++ '"' :: rest)) := by
    simp [Slot.member]
  have colon : Region.outside.after ':' = .outside := rfl
  have blank : Region.outside.after ' ' = .outside := rfl
  rw [shape, escapeFrom_quoted unicode_spaced quotable.key]
  rw [escapeFrom_outside_cons, colon, escapeFrom_outside_cons, blank,
    escapeFrom_quoted unicode_spaced quotable.text, valueChars]
  simp [Style.spaced]

/-- Behind a separator, the members of a map are written as they are at its start. -/
theorem Json.moreEntriesChars_cons (style : Style) (entry : String × Value)
    (rest : List (String × Value)) :
    moreEntriesChars style (entry :: rest) = style.comma ++ entriesChars style (entry :: rest) := by
  -- Behind the comma an entry is written like the first one.
  obtain ⟨key, value⟩ := entry
  rw [moreEntriesChars, entriesChars]
  simp only [List.append_assoc]

/-- Escaping turns a document into the text of its map. -/
theorem escapeFrom_document {slots : List Slot} (quotable : ∀ slot ∈ slots, slot.Quotable) :
    escapeFrom .outside (document Hole.text slots).toList =
      valueChars .spaced (.map (documentEntries slots)) := by
  have opening : Region.outside.after '\x7b' = .outside := rfl
  have comma : Region.outside.after ',' = .outside := rfl
  have blank : Region.outside.after ' ' = .outside := rfl
  -- Behind the opening brace, the members follow one after the other up to the closing one.
  have members : escapeFrom .outside ([',', ' '].intercalate
      ((slots.map (Slot.member Hole.text)).map String.toList) ++ ['\x7d']) =
        entriesChars .spaced (documentEntries slots) := by
    induction slots with
    | nil => rfl
    | cons slot rest ih =>
      rw [List.forall_mem_cons] at quotable
      obtain ⟨first, quotable⟩ := quotable
      cases rest with
      | nil =>
        -- The last member is followed by the closing brace.
        rw [List.map_singleton, List.map_singleton, List.intercalate_singleton,
          first.escapeFrom_member]
        rfl
      | cons next later =>
        -- Any other member is followed by a comma and a blank, which are passed over.
        have behind := ih quotable
        simp only [List.map_cons, List.intercalate_cons_cons, List.append_assoc] at behind ⊢
        rw [first.escapeFrom_member, List.cons_append, escapeFrom_outside_cons, comma,
          List.cons_append, escapeFrom_outside_cons, blank, List.nil_append, behind]
        simp only [documentEntries, List.map_cons, entriesChars, moreEntriesChars_cons]
        rfl
  have shape : (document Hole.text slots).toList = '\x7b' :: ([',', ' '].intercalate
      ((slots.map (Slot.member Hole.text)).map String.toList) ++ ['\x7d']) := by
    simp [document]
  rw [shape, escapeFrom_outside_cons, opening, members, valueChars]

/-- A document of distinct keys is read as its map. -/
theorem readOutput_document {slots : List Slot} (distinct : (slots.map Slot.key).Nodup)
    (quotable : ∀ slot ∈ slots, slot.Quotable) :
    Engine.readOutput (document Hole.text slots) = .ok (.map (documentEntries slots)) := by
  -- A map of distinct keys with texts under them is among the values that are read back.
  have exact : Exact nestingLimit (.map (documentEntries slots)) := by
    refine .map ?_ ?_
    · rw [documentEntries, List.map_map]
      exact distinct
    · -- Every text can be written.
      intro entry member
      obtain ⟨slot, _, rfl⟩ := List.mem_map.mp member
      exact .string slot.text
  refine Engine.readOutput_of_escaped ?_ regular_spaced exact
  rw [escapeControls_toList, escapeFrom_document quotable]

/-! ## Rendering the document -/

/-- Each gap is that of a member, behind the text in front of all members or between two. -/
theorem mem_gapsBehind {run : List Char} {slots : List Slot} {gap : Gap}
    (member : gap ∈ gapsBehind run slots) :
    ∃ slot ∈ slots, ∃ front ∈ [run, ['"', ',', ' ']], gap = slot.gap front := by
  -- The members are looked through from the first one on.
  induction slots generalizing run with
  | nil => cases member
  | cons slot rest ih =>
    rw [gapsBehind, List.mem_cons] at member
    rcases member with rfl | later
    · exact ⟨slot, List.mem_cons_self, run, List.mem_cons_self, rfl⟩
    · -- Of the later members, the first stands behind the text between two as well.
      obtain ⟨other, inside, front, fronts, rfl⟩ := ih later
      rw [List.mem_cons, List.mem_singleton, or_self] at fronts
      exact ⟨other, List.mem_cons_of_mem slot inside, front, by simp [fronts], rfl⟩

/-- What a member needs to arrive unchanged: a key without signs, a path that is found as a whole
and stands for a text, and neither quotes nor backslashes in that text. -/
structure Slot.Embeds (engine : Engine) (payload : Value) (definitions : Option Lookup)
    (slot : Slot) : Prop where
  /-- The key stays between its quotes and stands for itself. -/
  key : ∀ character ∈ slot.key.toList, character ≠ '$' ∧ Json.Quotable character
  /-- No part of the path is left over. -/
  whole : path? slot.path.toList = some slot.path.toList
  /-- The path stands for the text. -/
  resolved : (engine.valuesAt payload definitions 0 slot.path []).outcome = .ok (.string slot.text)
  /-- The text stays between its quotes. -/
  text : ∀ character ∈ slot.text.toList, Json.Quotable character

/-- No letter and no digit is a sign. -/
theorem ordinary_of_isAlphanumeric {character : Char}
    (alphanumeric : Text.isAlphanumeric character = true) :
    character ≠ '$' ∧ Json.Quotable character := by
  -- None of the three signs is a letter or a digit.
  have differs : ∀ sign, Text.isAlphanumeric sign = false → character ≠ sign := by
    intro sign apart same
    rw [same, apart] at alphanumeric
    cases alphanumeric
  exact ⟨differs '$' (by decide +kernel), differs '"' (by decide +kernel),
    differs '\\' (by decide +kernel)⟩

/-- A member with letters and digits as its key and a path into the payload needs no more than a
text at the end of the path. -/
theorem Slot.Embeds.of_data {engine : Engine} {payload : Value} {definitions : Option Lookup}
    {slot : Slot} (key : slot.key.toList.all Text.isAlphanumeric = true)
    (whole : path? slot.path.toList = some slot.path.toList) (root : pathRoot slot.path = "data")
    (found : follow [] (pathSegments slot.path) payload = some (.string slot.text))
    (text : ∀ character ∈ slot.text.toList, Json.Quotable character) :
    slot.Embeds engine payload definitions where
  key := fun character member =>
    ordinary_of_isAlphanumeric (List.all_eq_true.mp key character member)
  whole := whole
  resolved := by
    -- Outside all loops the path is followed without bindings.
    rw [Engine.valuesAt, resolve_data root, found]
    rfl
  text := text

namespace Engine

variable {engine : Engine} {payload : Value} {definitions : Option Lookup} {slots : List Slot}

/-- In a document of such members every gap can be read. -/
theorem readable_gapsBehind (embeds : ∀ slot ∈ slots, slot.Embeds engine payload definitions)
    {gap : Gap} (member : gap ∈ gapsBehind ['\x7b'] slots) : gap.Readable := by
  obtain ⟨slot, inside, front, fronts, rfl⟩ := mem_gapsBehind member
  have embedded := embeds slot inside
  refine ⟨⟨by simp [Slot.gap], ?_⟩, embedded.whole⟩
  -- In front of the gap stand no signs, be it of the document or of the key.
  have between : ∀ front ∈ [['\x7b'], ['"', ',', ' ']], ∀ character ∈ front,
      character ≠ '$' ∧ character ≠ '\\' := by simp
  have key : ∀ character ∈ slot.key.toList, character ≠ '$' ∧ character ≠ '\\' :=
    fun character found =>
      ⟨(embedded.key character found).1, (embedded.key character found).2.2⟩
  -- Neither stand any between the key and its value.
  have colon : ∀ character ∈ ['"', ':', ' ', '"'], character ≠ '$' ∧ character ≠ '\\' := by
    simp
  rw [Slot.gap, List.forall_mem_append, List.forall_mem_cons, List.forall_mem_append]
  exact ⟨between front fronts, by decide, key, colon⟩

/-- A document with references in its holes is rendered to the document with the texts there. -/
theorem tryRender_document (embeds : ∀ slot ∈ slots, slot.Embeds engine payload definitions) :
    (engine.tryRender (document Hole.reference slots) payload definitions).outcome =
      .ok (some (document Hole.text slots)) := by
  -- Both documents have the same text around their gaps.
  have last : Gap.Verbatim (documentEnd slots) := by
    cases slots with
    | nil => exact ⟨List.cons_ne_nil _ _, by simp [documentEnd]⟩
    | cons slot rest => exact ⟨List.cons_ne_nil _ _, by simp [documentEnd]⟩
  have resolved : ∀ gap ∈ gapsBehind ['\x7b'] slots,
      (engine.valuesAt payload definitions 0 gap.path []).outcome.map Value.text =
        .ok gap.text := by
    -- Each gap belongs to one slot, whose path has a value.
    intro gap member
    obtain ⟨slot, inside, front, _, rfl⟩ := mem_gapsBehind member
    exact map_eq_ok_iff.mpr ⟨_, (embeds slot inside).resolved, rfl⟩
  have rendered := Gap.tryRender_fill (fun _ member => readable_gapsBehind embeds member) last
    resolved
  rw [← document_toList, ← document_toList, String.ofList_toList, String.ofList_toList] at rendered
  exact rendered

/-- Texts of a payload arrive unchanged between the quotes of a document: with distinct keys, a
template that refers to them there gives the map of the keys and the texts, in the same order.  The
texts may hold several lines, any other control characters and what looks like a template. -/
theorem reformat_document (engine : Engine) (payload : Value) (definitions : Option Lookup)
    (slots : List Slot) (distinct : (slots.map Slot.key).Nodup)
    (embeds : ∀ slot ∈ slots, slot.Embeds engine payload definitions) :
    (engine.reformat (document Hole.reference slots) payload definitions).value =
      .ok (.map (slots.map fun slot => (slot.key, .string slot.text))) := by
  -- The template is rendered to the document with the texts, which is read as the map.
  have quotable : ∀ slot ∈ slots, slot.Quotable := fun slot member =>
    ⟨fun character inside => ((embeds slot member).key character inside).2,
      (embeds slot member).text⟩
  rw [reformat_of_rendered (tryRender_document embeds), readOutput_document distinct quotable]
  rfl

/-- A message of several lines, and a text that looks like a template and like JSON. -/
def commit : Value :=
  .map [("message", .string "fix\nbug\r\n\ttabbed\x01\x7f\x08\x0c\x00😀"),
    ("notes", .sequence [.string "$\x7bif data.message\x7d $data.notes, [\x7b\x7d]: 1\n"])]

/-- The members that the two texts are put into. -/
def commitSlots : List Slot :=
  [⟨⟨"data.message", "fix\nbug\r\n\ttabbed\x01\x7f\x08\x0c\x00😀"⟩, "text"⟩,
    ⟨⟨"data.notes.0", "$\x7bif data.message\x7d $data.notes, [\x7b\x7d]: 1\n"⟩, "n1"⟩]

theorem reformat_document_commit :
    (commitSlots.map Slot.key).Nodup ∧
      (∀ slot ∈ commitSlots, slot.Embeds standard commit none) ∧
      document Hole.reference commitSlots = "\x7b\"text\": \"$\x7bdata.message\x7d\", " ++
        "\"n1\": \"$\x7bdata.notes.0\x7d\"\x7d" ∧
      (standard.reformat (document Hole.reference commitSlots) commit none).value =
        .ok (.map [("text", .string "fix\nbug\r\n\ttabbed\x01\x7f\x08\x0c\x00😀"),
          ("n1", .string "$\x7bif data.message\x7d $data.notes, [\x7b\x7d]: 1\n")]) := by
  have distinct : (commitSlots.map Slot.key).Nodup := by decide
  -- Both texts come from the payload, and neither has a quote or a backslash.
  have embeds : ∀ slot ∈ commitSlots, slot.Embeds standard commit none := by
    rw [commitSlots, List.forall_mem_cons, List.forall_mem_singleton]
    constructor
    · exact .of_data (by decide +kernel) (by decide +kernel) (by decide +kernel) rfl
        (by simp [Json.Quotable])
    · exact .of_data (by decide +kernel) (by decide +kernel) (by decide +kernel) rfl
        (by simp [Json.Quotable])
  refine ⟨distinct, embeds, by decide +kernel, ?_⟩
  exact reformat_document standard commit none commitSlots distinct embeds

end Engine

end PayloadTemplate
