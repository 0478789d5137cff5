import PayloadTemplate.Proofs.Entries
import PayloadTemplate.Proofs.Render.Paths
import PayloadTemplate.Proofs.Render.Success
import PayloadTemplate.Proofs.Template.Expression

/-!
Inside a loop over a part of the payload, the path of that part with the loop's index behind it is
the path of the current element.
-/

namespace PayloadTemplate

/-! ## Paths that are scanned as a whole -/

namespace Template

open Text Render

/-- A text that may stand between two dots of a path in a template. -/
def Segment (segment : String) : Prop :=
  -- The scanner ends a path before a dot that no segment follows.
  segment ≠ "" ∧ ∀ character ∈ segment.toList, isSegmentChar character = true

instance (segment : String) : Decidable (Segment segment) :=
  -- The characters of the text are looked at, not all characters that there are.
  decidable_of_iff (segment ≠ "" ∧ segment.toList.all isSegmentChar = true) (by simp [Segment])

/-- A segment holds no dot. -/
theorem Segment.whole {segment : String} (spelled : Segment segment) : '.' ∉ segment.toList := by
  -- A dot is neither a word character nor a hyphen.
  intro member
  have taken := spelled.2 '.' member
  have stopped : isSegmentChar '.' = false := by decide +kernel
  rw [stopped] at taken
  cases taken

/-- The name of an index is a segment. -/
theorem segment_index {index : Char} (word : isWordChar index = true) :
    Segment index.toString := by
  -- A word character is among those of a segment.
  constructor
  · simp [Char.toString_eq_singleton]
  · simp [Char.toString_eq_singleton, isSegmentChar, word]

/-- Characters of segments are taken whatever follows them. -/
theorem segmentRun_characters {characters : List Char}
    (taken : ∀ character ∈ characters, isSegmentChar character = true) (after : List Char) :
    segmentRun (characters ++ after) = characters ++ segmentRun after := by
  -- Each of the characters is taken without a look at what follows.
  induction characters with
  | nil => rfl
  | cons character rest ih =>
    obtain ⟨first, others⟩ := List.forall_mem_cons.mp taken
    rw [List.cons_append, segmentRun, first, Bool.true_or, if_pos rfl, ih others]
    rfl

/-- Segments behind their dots are taken as a whole. -/
theorem segmentRun_dotted {segments : List String}
    (spelled : ∀ segment ∈ segments, Segment segment) :
    segmentRun (dotted segments) = dotted segments := by
  induction segments with
  | nil => rfl
  | cons segment rest ih =>
    obtain ⟨⟨filled, taken⟩, others⟩ := List.forall_mem_cons.mp spelled
    -- A dot is taken because the segment behind it is not empty.
    have starts : startsSegment (segment.toList ++ dotted rest) = true := by
      obtain ⟨character, later, letters⟩ : ∃ character later, segment.toList = character :: later :=
        List.exists_cons_of_ne_nil (by simpa using filled)
      rw [letters]
      exact taken character (by simp [letters])
    have split : dotted (segment :: rest) = '.' :: (segment.toList ++ dotted rest) := rfl
    -- The rest of the segment has no dots of its own.
    rw [split, segmentRun, starts, segmentRun_characters taken, ih others]
    simp

/-- A path of a known root is scanned to its end. -/
theorem path?_pathOf {root : String} {segments : List String} (known : root.toList ∈ pathRoots)
    (spelled : ∀ segment ∈ segments, Segment segment) :
    path? (pathOf root segments).toList = some (pathOf root segments).toList := by
  have whole : dottedSegments (dotted segments) = dotted segments := by
    cases segments with
    | nil => rfl
    | cons segment rest => exact segmentRun_dotted spelled
  rw [pathOf_toList]
  generalize root.toList = letters at known
  -- No root begins like another one.
  simp only [pathRoots, List.mem_cons, List.not_mem_nil, or_false] at known
  rcases known with rfl | rfl | rfl | rfl
  all_goals simp [path?, pathRoots, List.find?, List.isPrefixOf, whole]

/-- A text between the braces of an expression. -/
def braced (text : String) : String :=
  "$\x7b" ++ text ++ "\x7d"

/-- A loop over a part of the payload whose body prints the current key and then what the path of
that part leads to with the index behind it. -/
def elementLoop (index : Char) (segments : List String) : String :=
  braced ("for " ++ index.toString ++ " in " ++ pathOf "data" segments) ++
    braced ("key." ++ index.toString) ++
    braced (pathOf "data" segments ++ "." ++ index.toString) ++ braced "endfor"

/-- Such a loop consists of four expressions. -/
theorem elementLoop_toList (index : Char) (segments : List String) :
    (elementLoop index segments).toList =
      expressionText [.keyword .forWord, .index index, .keyword .inWord,
          .path (pathOf "data" segments)] ++
        (expressionText [.path (pathOf "key" [index.toString])] ++
          (expressionText [.path (pathOf "data" (segments ++ [index.toString]))] ++
            (expressionText [.keyword .endForWord] ++ []))) := by
  simp [elementLoop, braced, expressionText, pathOf_toList, dotted, Token.lexeme, Keyword.word,
    List.intercalate_cons_cons, Char.toString_eq_singleton]

/-- The items of such a loop. -/
theorem itemsOf_elementLoop {index : Char} {segments : List String}
    (word : isWordChar index = true) (spelled : ∀ segment ∈ segments, Segment segment) :
    itemsOf (elementLoop index segments) =
      .ok [.loop index (pathOf "data" segments) [.reference (pathOf "key" [index.toString]),
        .reference (pathOf "data" (segments ++ [index.toString]))]] := by
  have named : ∀ segment ∈ [index.toString], Segment segment :=
    List.forall_mem_singleton.mpr (segment_index word)
  -- The three paths and the index are what the lexer finds in their place.
  have data : "data".toList ∈ pathRoots := by decide
  have source : (Token.path (pathOf "data" segments)).Genuine := ⟨_, path?_pathOf data spelled⟩
  have key : (Token.path (pathOf "key" [index.toString])).Genuine :=
    ⟨_, path?_pathOf (by decide) named⟩
  have element : (Token.path (pathOf "data" (segments ++ [index.toString]))).Genuine :=
    ⟨_, path?_pathOf data (List.forall_mem_append.mpr ⟨spelled, named⟩)⟩
  have header : ∀ token ∈ [Token.keyword .forWord, Token.index index, Token.keyword .inWord,
      Token.path (pathOf "data" segments)], token.isWord = true ∧ token.Genuine := by
    simpa [Token.isWord, Token.Genuine] using ⟨word, source⟩
  -- From the end to the front, each expression is scanned in front of the later ones.
  have nothing : Scans .literal none [] [] := scans_nil_iff.mpr rfl
  have ending : (Token.keyword .endForWord).Genuine := trivial
  have scans := scans_expressionText header
    (scans_braced rfl key (scans_braced rfl element (scans_braced rfl ending nothing)))
  rw [← elementLoop_toList] at scans
  refine itemsOf_eq_ok_iff.mpr ⟨_, tokens_eq_ok_iff.mpr scans, parse_eq_ok_iff.mpr ⟨⟨by simp, ?_⟩,
    .loop (.braced (.braced .nil)) .nil⟩⟩
  simp [WellFormedItems, Item.WellFormed, Item.isText]

end Template

/-! ## Elements and the paths that lead to them -/

namespace Render

open Loop Template Text

/-- The keys of a loop over a value, each with the element that stands there. -/
def elements : Value → List (Key × Value)
  | .sequence items => items.mapIdx fun position item => (.index position, item)
  | .map entries => entries.map fun entry => (.key entry.1, entry.2)
  | _ => []

/-- A loop over a sequence or a map visits its elements in order. -/
theorem domainOf_eq_elements {value : Value} (kind : value.kind = .sequence ∨ value.kind = .map) :
    domainOf value = some ((elements value).map Prod.fst) := by
  cases value with
  | sequence items =>
    -- The key at each position is that position.
    refine congrArg some (List.ext_getElem (by simp [elements]) fun position _ _ => ?_)
    simp [elements]
  | map entries => simp [domainOf, elements, Function.comp_def]
  | _ => simp [Value.kind] at kind

/-- Under names that are not among its segments, a path leads where it leads outside all loops. -/
theorem follow_of_unbound {bindings : Bindings} {segments : List String}
    (unbound : ∀ segment ∈ segments, bindings.lookup segment = none) (value : Value) :
    follow bindings segments value = follow [] segments value := by
  induction segments generalizing value with
  | nil => rfl
  | cons segment rest ih =>
    -- A segment that no loop has named stands for itself.
    obtain ⟨free, others⟩ := List.forall_mem_cons.mp unbound
    -- Neither a map nor a sequence finds another part under this segment than without bindings.
    cases value with
    | map entries =>
      simp only [follow, entryAt?, free, List.lookup_nil]
      exact Option.bind_congr fun part _ => ih others part
    | sequence items =>
      simp only [follow, itemAt?, free, List.lookup_nil]
      split
      · rfl
      · exact Option.bind_congr fun part _ => ih others part
    | _ => rfl

/-- From a value, the name of a loop that has reached one of its keys leads to the element there. -/
def LeadsToElements (name : String) (value : Value) : Prop :=
  ∀ element ∈ elements value, follow [(name, element.1)] [name] value = some element.2

/-- In a sequence, the name of a loop comes before the position that it may spell. -/
theorem leadsToElements_sequence {name : String} (notLength : name ≠ "length")
    (items : List Value) : LeadsToElements name (.sequence items) := by
  -- The position was bound by the loop, so it lies within the sequence.
  intro element member
  obtain ⟨position, within, rfl⟩ := List.mem_mapIdx.mp member
  simp [follow, itemAt?, notLength, within]

/-- In a map, a key that is spelled like the name of the loop would come first. -/
theorem leadsToElements_map {name : String} {entries : List (String × Value)}
    (distinct : (entries.map Prod.fst).Nodup) (free : name ∉ entries.map Prod.fst) :
    LeadsToElements name (.map entries) := by
  -- The name of the loop is no key, so the key that it stands for is looked up.
  intro element member
  obtain ⟨entry, inside, rfl⟩ := List.mem_map.mp member
  have absent : entries.lookup name = none := Entries.lookup_eq_none_iff.mpr free
  simp [follow, entryAt?, absent, (Entries.lookup_eq_some_iff distinct).mpr inside]

/-- Inside a loop, the path to its key has that key as its value. -/
theorem resolve_pathOf_key (scope : Scope) (nested : NestedRender) (name : String) (key : Key) :
    (resolve scope nested (pathOf "key" [name]) [(name, key)]).outcome = .ok key.toValue := by
  -- Inside a loop there are bindings, so the path is looked up in them.
  have plain : '.' ∉ "key".toList := by decide
  simp [resolve, pathRoot_pathOf plain, resolveKey, pathName_pathOf plain]

/-- The value of a key is printed as the key itself. -/
theorem text_toValue (key : Key) : key.toValue.text = key.text := by
  cases key <;> rfl

/-! ## Interpreting loops -/

/-- A reference prints the text of its value. -/
theorem interpretItem_reference (scope : Scope) (nested : NestedRender) (path : String)
    (bindings : Bindings) :
    interpretItem scope nested (.reference path) bindings =
      (resolve scope nested path bindings).outcome.map Value.text := by
  -- The text of a value is that of the string which it is turned into.
  rw [interpretItem, resolveText_outcome]
  cases (resolve scope nested path bindings).outcome <;> rfl

/-- A source that is one loop prints what its body prints for the keys of the loop. -/
theorem interpretItems_loop {scope : Scope} {nested : NestedRender} {index : Char}
    {source : String} {body : List Item} {domain : List Key} {texts : List String}
    (found : domainAt (resolve scope nested) source = .ok domain)
    (printed : domain.map (fun key => interpretItems scope nested body [(index.toString, key)]) =
      texts.map .ok) :
    interpretItems scope nested [.loop index source body] [] = .ok (String.join texts) := by
  rw [interpretItems, interpretItem, found]
  -- Nothing stands behind the loop.
  refine bind_eq_ok_iff.mpr ⟨String.join texts, ?_, congrArg Except.ok String.append_empty⟩
  exact bind_eq_ok_iff.mpr
    ⟨domain, rfl, bind_eq_ok_iff.mpr ⟨texts, mapM_eq_ok_iff.mpr printed, rfl⟩⟩

/-- In the body of a single loop there is one choice for each of its keys. -/
theorem readable_in_loop {resolve : Resolve} {index : Char} {source path : String}
    {domain : List Key} (found : domainAt resolve source = .ok domain)
    (every : ∀ key ∈ domain, ∃ value, (resolve path [(index.toString, key)]).outcome = .ok value) :
    Readable resolve [(index, source)] path := by
  intro bindings assigned
  rw [activeLoops, List.map_singleton, keysOf_eq resolve found] at assigned
  -- The choice is a key of this loop, and outside of it nothing is chosen.
  cases assigned with
  | cons member others =>
    cases others
    exact every _ member

/-- A path into a payload that is the source of a loop, and an index that leads from its value to
the elements. -/
structure Traversal (engine : Engine) (payload : Value) (definitions : Option Lookup)
    (segments : List String) (index : Char) (value : Value) : Prop where
  /-- The path is scanned as a whole. -/
  spelled : ∀ segment ∈ segments, Segment segment
  /-- The index is one that the scanner accepts. -/
  word : isWordChar index = true
  /-- No segment is spelled like the index. -/
  apart : index.toString ∉ segments
  /-- Outside the loop, the path has the value that the loop ranges over. -/
  reached : (engine.valuesAt payload definitions 0 (pathOf "data" segments) []).outcome = .ok value
  /-- It is a value that loops range over. -/
  kind : value.kind = .sequence ∨ value.kind = .map
  /-- Its elements can be counted in a word. -/
  countable : (elements value).length < wordValues
  /-- From it, the index leads to the elements. -/
  leads : LeadsToElements index.toString value

namespace Traversal

variable {engine : Engine} {payload : Value} {definitions : Option Lookup}
  {segments : List String} {index : Char} {value : Value}
  (traversal : Traversal engine payload definitions segments index value)

include traversal

/-- No segment holds a dot, and the index is none. -/
theorem whole : ∀ segment ∈ segments ++ [index.toString], '.' ∉ segment.toList :=
  List.forall_mem_append.mpr ⟨fun segment member => (traversal.spelled segment member).whole,
    List.forall_mem_singleton.mpr (segment_index traversal.word).whole⟩

/-- Only a path that leads somewhere has a sequence or a map as its value. -/
theorem follow_source : follow [] segments payload = some value := by
  have reached := traversal.reached
  rw [Engine.valuesAt, resolve_pathOf_data (List.forall_mem_append.mp traversal.whole).1,
    Except.ok.injEq] at reached
  cases found : follow [] segments payload with
  | some part => exact congrArg some (by simpa [found] using reached)
  | none =>
    -- A path that leads nowhere reads as an empty text.
    rw [found, Option.getD_none] at reached
    have kind := traversal.kind
    simp [← reached, Value.kind] at kind

/-- The loop ranges over the keys of the elements. -/
theorem domainAt_source :
    domainAt (topLevel engine payload definitions) (pathOf "data" segments) =
      .ok ((elements value).map Prod.fst) :=
  bind_eq_ok_iff.mpr ⟨value, traversal.reached, by rw [domainOf_eq_elements traversal.kind]; rfl⟩

/-- In the body, the path with the index behind it has the current element as its value. -/
theorem resolve_element {element : Key × Value} (member : element ∈ elements value) :
    (topLevel engine payload definitions (pathOf "data" (segments ++ [index.toString]))
      [(index.toString, element.1)]).outcome = .ok element.2 := by
  -- Up to the index the path leads where the source of the loop does.
  have unbound : ∀ segment ∈ segments,
      List.lookup segment [(index.toString, element.1)] = none := by
    intro segment inside
    have other : segment ≠ index.toString := fun same => traversal.apart (same ▸ inside)
    rw [List.lookup_cons, beq_false_of_ne other, List.lookup_nil]
  rw [topLevel, resolve_pathOf_data traversal.whole, follow_append, follow_of_unbound unbound,
    traversal.follow_source]
  exact congrArg (fun part => Except.ok (part.getD (.string ""))) (traversal.leads element member)

/-- The body prints a key and the element that stands there. -/
theorem interpretItems_body {element : Key × Value} (member : element ∈ elements value) :
    interpretItems ⟨payload, definitions, 0⟩ (engine.renderNested ⟨payload, definitions, 0⟩)
      [.reference (pathOf "key" [index.toString]),
        .reference (pathOf "data" (segments ++ [index.toString]))]
      [(index.toString, element.1)] = .ok (element.1.text ++ element.2.text) := by
  have read := traversal.resolve_element member
  rw [topLevel] at read
  simp only [interpretItems, interpretItem_reference, resolve_pathOf_key, read, Except.map,
    text_toValue]
  -- Nothing is printed behind the two references.
  exact congrArg (fun text => Except.ok (element.1.text ++ text)) String.append_empty

/-- The loop prints the keys of a value, each with its element. -/
theorem tryRender_elementLoop :
    (engine.tryRender (elementLoop index segments) payload definitions).outcome =
      .ok (some (String.join ((elements value).map fun element =>
        element.1.text ++ element.2.text))) := by
  have domain := traversal.domainAt_source
  refine tryRender_of_sound (by simp [elementLoop, braced])
    (itemsOf_elementLoop traversal.word traversal.spelled) ?_ (interpretItems_loop domain ?_)
  · -- The loop itself and the two references in its body are looked at.
    simp only [sites, inside, List.nil_append, List.append_nil, List.forall_mem_cons]
    refine ⟨⟨⟨value, traversal.reached, traversal.kind⟩, ?_⟩, ?_, ?_, by simp⟩
    · rw [Countable, activeLoops, List.map_singleton, keysOf_eq _ domain]
      simpa [Stack.combinationCount, ActiveLoop.size] using traversal.countable
    · exact readable_in_loop domain fun key _ => ⟨_, resolve_pathOf_key _ _ _ key⟩
    · refine readable_in_loop domain fun key member => ?_
      obtain ⟨element, inside, rfl⟩ := List.mem_map.mp member
      exact ⟨_, traversal.resolve_element inside⟩
  · -- For each key the body prints that key and its element.
    rw [List.map_map, List.map_map]
    exact List.map_congr_left fun element member => traversal.interpretItems_body member

end Traversal

/-- In the body of a loop over a part of the payload, the path of that part with the index behind it
is the current element.  A sequence is printed position by position, a map key by key, each with its
element; that holds for every index that the scanner accepts, even if it could itself be a position,
provided that it is neither a segment of the path nor a key of the map. -/
theorem loop_body_reads_elements (engine : Engine) (payload : Value) (definitions : Option Lookup)
    {segments : List String} {index : Char} (spelled : ∀ segment ∈ segments, Segment segment)
    (word : isWordChar index = true) (apart : index.toString ∉ segments) :
    (∀ items,
      (engine.valuesAt payload definitions 0 (pathOf "data" segments) []).outcome =
          .ok (.sequence items) →
        -- What a payload holds can be counted in a word.
        items.length < wordValues →
          (engine.tryRender (elementLoop index segments) payload definitions).outcome =
            .ok (some (String.join (items.mapIdx fun position item =>
              toString position ++ item.text)))) ∧
      ∀ entries,
        (engine.valuesAt payload definitions 0 (pathOf "data" segments) []).outcome =
            .ok (.map entries) →
          entries.length < wordValues →
            -- The keys of a map are distinct.
            (entries.map Prod.fst).Nodup →
              index.toString ∉ entries.map Prod.fst →
                (engine.tryRender (elementLoop index segments) payload definitions).outcome =
                  .ok (some (String.join (entries.map fun entry => entry.1 ++ entry.2.text))) := by
  constructor
  · intro items reached fits
    -- No name of a loop is as long as the word for the length.
    have notLength : index.toString ≠ "length" := by
      intro same
      have letters := congrArg String.toList same
      simp [Char.toString_eq_singleton] at letters
    have traversal : Traversal engine payload definitions segments index (.sequence items) :=
      ⟨spelled, word, apart, reached, .inl rfl, by simpa [elements] using fits,
        leadsToElements_sequence notLength items⟩
    -- An element of a sequence is printed behind its position.
    have printed : (elements (.sequence items)).map (fun element =>
        element.1.text ++ element.2.text) =
        items.mapIdx fun position item => toString position ++ item.text := by
      refine List.ext_getElem (by simp [elements]) fun position _ _ => ?_
      simp only [elements, List.getElem_map, List.getElem_mapIdx]
      rfl
    rw [traversal.tryRender_elementLoop, printed]
  · intro entries reached fits distinct free
    -- The name of the loop is no key of the map, so it stands for the keys.
    have traversal : Traversal engine payload definitions segments index (.map entries) :=
      ⟨spelled, word, apart, reached, .inr rfl, by simpa [elements] using fits,
        leadsToElements_map distinct free⟩
    rw [traversal.tryRender_elementLoop]
    simp only [elements, List.map_map]
    rfl

/-- A payload with a sequence and a map, both under keys of more than letters. -/
def shelf : Value :=
  .map [("a-b", .sequence [.string "x", .null, .sequence []]),
    ("é", .map [("1", .string "x"), ("b", .bool true)])]

/-- An index that is a digit does not stand for that position, and one that is no ASCII letter
reaches the keys of a map, digits included. -/
theorem loop_body_reads_elements_shelf :
    (∀ segment ∈ ["a-b"], Segment segment) ∧ isWordChar '1' = true ∧ '1'.toString ∉ ["a-b"] ∧
      (∀ segment ∈ ["é"], Segment segment) ∧ isWordChar 'ß' = true ∧ 'ß'.toString ∉ ["é"] ∧
      (Engine.standard.tryRender
        "$\x7bfor 1 in data.a-b\x7d$\x7bkey.1\x7d$\x7bdata.a-b.1\x7d$\x7bendfor\x7d"
        shelf none).outcome = .ok (some "0x12[]") ∧
      (Engine.standard.tryRender
        "$\x7bfor ß in data.é\x7d$\x7bkey.ß\x7d$\x7bdata.é.ß\x7d$\x7bendfor\x7d"
        shelf none).outcome = .ok (some "1xbtrue") := by
  have spelled : ∀ segment ∈ ["a-b"], Segment segment :=
    List.forall_mem_singleton.mpr (by decide +kernel)
  have spelledMap : ∀ segment ∈ ["é"], Segment segment :=
    List.forall_mem_singleton.mpr (by decide +kernel)
  have word : isWordChar '1' = true := by decide +kernel
  have wordMap : isWordChar 'ß' = true := by decide +kernel
  have apart : '1'.toString ∉ ["a-b"] := by decide
  have apartMap : 'ß'.toString ∉ ["é"] := by decide
  -- A sequence of three elements, and a map that has no key of the name of its loop.
  refine ⟨spelled, word, apart, spelledMap, wordMap, apartMap, ?_, ?_⟩
  · exact (loop_body_reads_elements Engine.standard shelf none spelled word apart).1 _ rfl
      (by decide)
  · exact (loop_body_reads_elements Engine.standard shelf none spelledMap wordMap apartMap).2 _ rfl
      (by decide) (by decide) (by decide)

end Render

end PayloadTemplate
