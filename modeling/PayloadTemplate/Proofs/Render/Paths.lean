import PayloadTemplate.Proofs.Render.Resolver

/-!
Paths of given segments.  What a path leads to in a payload is found in two steps as well: first
along the segments in front, and from there along the others.
-/

namespace PayloadTemplate.Render

open Loop

/-! ## Writing paths -/

/-- The path of a root and the segments behind it. -/
def pathOf (root : String) (segments : List String) : String :=
  ".".intercalate (root :: segments)

/-- The segments of a path, each behind its dot. -/
def dotted (segments : List String) : List Char :=
  segments.flatMap fun segment => '.' :: segment.toList

theorem pathOf_toList (root : String) (segments : List String) :
    (pathOf root segments).toList = root.toList ++ dotted segments := by
  induction segments generalizing root with
  | nil => simp [pathOf, dotted]
  | cons segment rest ih =>
    -- The first segment takes the place of the root in front of the others.
    have later := ih segment
    rw [pathOf, String.intercalate_cons_cons, ← pathOf, String.toList_append, String.toList_append,
      later]
    simp [dotted]

/-- Behind the first dot, the segments stand with dots between them. -/
theorem dotted_cons (segment : String) (rest : List String) :
    dotted (segment :: rest) = '.' :: ['.'].intercalate ((segment :: rest).map String.toList) := by
  -- Between two segments stands a dot, and one more in front of the first.
  induction rest generalizing segment with
  | nil => simp [dotted]
  | cons next later ih =>
    rw [List.map_cons, List.map_cons, List.intercalate_cons_cons, ← List.map_cons,
      List.append_assoc, List.singleton_append, ← ih next]
    simp [dotted]

section Reading

variable {root : String} {segments : List String}

/-- A text without a dot is passed as a whole in search of one. -/
theorem bne_dot {characters : List Char} (plain : '.' ∉ characters) :
    ∀ character ∈ characters, (character != '.') = true := by
  -- Only a dot fails the test, and there is none.
  intro character member
  rw [bne_iff_ne]
  rintro rfl
  exact plain member

/-- The root is all that stands in front of the first dot. -/
theorem dropWhile_pathOf (plain : '.' ∉ root.toList) (segments : List String) :
    (pathOf root segments).toList.dropWhile (· != '.') = dotted segments := by
  rw [pathOf_toList, List.dropWhile_append_of_pos (bne_dot plain)]
  cases segments <;> rfl

theorem pathRoot_pathOf (plain : '.' ∉ root.toList) (segments : List String) :
    pathRoot (pathOf root segments) = root := by
  rw [pathRoot, pathOf_toList, List.takeWhile_append_of_pos (bne_dot plain)]
  -- What follows is nothing or begins with a dot.
  have none : (dotted segments).takeWhile (· != '.') = [] := by cases segments <;> rfl
  rw [none, List.append_nil, String.ofList_toList]

/-- A path is split at its dots into the segments that it has been written with. -/
theorem pathSegments_pathOf (plain : '.' ∉ root.toList)
    (whole : ∀ segment ∈ segments, '.' ∉ segment.toList) :
    pathSegments (pathOf root segments) = segments := by
  -- The root ends at the first dot, and no segment has a dot of its own.
  rw [pathSegments, dropWhile_pathOf plain]
  cases segments with
  | nil => rfl
  | cons segment rest =>
    rw [dotted_cons]
    have parts : ∀ part ∈ (segment :: rest).map String.toList, '.' ∉ part := by
      intro part member
      obtain ⟨written, inside, rfl⟩ := List.mem_map.mp member
      exact whole written inside
    show (List.splitOn '.' _).map String.ofList = _
    rw [List.splitOn_intercalate '.' parts (by simp)]
    simp [Function.comp_def]

/-- The name behind the root of a path with one segment is that segment. -/
theorem pathName_pathOf (plain : '.' ∉ root.toList) (name : String) :
    pathName (pathOf root [name]) = name := by
  rw [pathName, dropWhile_pathOf plain]
  simp [dotted]

end Reading

/-! ## Following paths -/

/-- Segments are followed one part after the other. -/
theorem follow_append (bindings : Bindings) (first second : List String) (value : Value) :
    follow bindings (first ++ second) value =
      follow bindings first value >>= follow bindings second := by
  induction first generalizing value with
  | nil => rfl
  | cons segment rest ih =>
    rw [List.cons_append]
    -- At each segment, maps and sequences go on with the part that was found.
    cases value with
    | map entries =>
      simp only [follow, Option.bind_eq_bind, Option.bind_assoc]
      refine Option.bind_congr fun part _ => ih part
    | sequence items =>
      simp only [follow]
      split
      · -- The length of a sequence has no parts, so it is reached by the last segment only.
        cases rest with
        | nil => cases second <;> rfl
        | cons next later => rfl
      · simp only [Option.bind_eq_bind, Option.bind_assoc]
        refine Option.bind_congr fun part _ => ih part
    | _ => rfl

/-- Where a path has led nowhere, all further segments lead nowhere. -/
theorem follow_nowhere (bindings : Bindings) (segments : List String) :
    (follow bindings segments (.string "")).getD (.string "") = .string "" := by
  cases segments <;> rfl

/-- A path into the payload has the value that its segments lead to, or is empty. -/
theorem resolve_pathOf_data {segments : List String}
    (whole : ∀ segment ∈ segments, '.' ∉ segment.toList) (scope : Scope) (nested : NestedRender)
    (bindings : Bindings) :
    (resolve scope nested (pathOf "data" segments) bindings).outcome =
      .ok ((follow bindings segments scope.payload).getD (.string "")) := by
  have plain : '.' ∉ "data".toList := by decide
  rw [resolve_data (pathRoot_pathOf plain segments), pathSegments_pathOf plain whole]

/-- Paths into a payload compose.  Whatever loops are bound, a path has a value; and with further
segments it has the value that these have, under the same bindings, in the first one as the payload.
That value is the same wherever the first path has led: to a part of the payload, to the length of a
sequence, or nowhere. -/
theorem data_paths_compose {first second : List String}
    (whole : ∀ segment ∈ first ++ second, '.' ∉ segment.toList) (payload : Value)
    (definitions : Option Lookup) (depth : Nat) (nested : NestedRender) (bindings : Bindings) :
    ∃ part value,
      (resolve ⟨payload, definitions, depth⟩ nested (pathOf "data" first) bindings).outcome =
          .ok part ∧
        (resolve ⟨part, definitions, depth⟩ nested (pathOf "data" second) bindings).outcome =
          .ok value ∧
        (resolve ⟨payload, definitions, depth⟩ nested (pathOf "data" (first ++ second))
          bindings).outcome = .ok value := by
  obtain ⟨wholeFirst, wholeSecond⟩ := List.forall_mem_append.mp whole
  refine ⟨_, _, resolve_pathOf_data wholeFirst _ _ _, resolve_pathOf_data wholeSecond _ _ _, ?_⟩
  rw [resolve_pathOf_data whole, follow_append]
  -- Where the first path leads nowhere, the second one starts from an empty text.
  cases found : follow bindings first payload with
  | none => exact congrArg Except.ok (follow_nowhere bindings second).symm
  | some part => rfl

/-- A payload of rows, one of which has an entry named like the length of a sequence. -/
def rows : Value :=
  .map [("rows", .sequence [.sequence [.string "a", .string "b"], .map [("length", .string "c")]])]

/-- Two loops that have reached a position and a key. -/
def reached : Bindings := [("i", .index 0), ("k", .key "length")]

/-- From the row of a loop to its last item, and from the number of rows nowhere. -/
theorem data_paths_compose_rows :
    (∀ segment ∈ ["rows", "i"] ++ ["-1"], '.' ∉ segment.toList) ∧
      (∀ segment ∈ ["rows", "length"] ++ ["k"], '.' ∉ segment.toList) ∧
      (resolve ⟨rows, none, 0⟩ (fun _ => return none) "data.rows.i.-1" reached).outcome =
        .ok (.string "b") ∧
      (resolve ⟨rows, none, 0⟩ (fun _ => return none) "data.rows.length.k" reached).outcome =
        .ok (.string "") := by
  have whole : ∀ segment ∈ ["rows", "i"] ++ ["-1"], '.' ∉ segment.toList := by decide
  have wholeLength : ∀ segment ∈ ["rows", "length"] ++ ["k"], '.' ∉ segment.toList := by decide
  refine ⟨whole, wholeLength, ?_, ?_⟩
  · obtain ⟨row, item, led, further, both⟩ :=
      data_paths_compose whole rows none 0 (fun _ => return none) reached
    -- The index of the loop leads to one row, and from its end to an item.
    obtain rfl : Value.sequence [.string "a", .string "b"] = row := Except.ok.inj led
    obtain rfl : Value.string "b" = item := Except.ok.inj further
    exact both
  · obtain ⟨count, item, led, further, both⟩ :=
      data_paths_compose wholeLength rows none 0 (fun _ => return none) reached
    -- A number has no parts, so what lies behind it is the empty text.
    obtain rfl : Value.number (.integer 2) = count := Except.ok.inj led
    obtain rfl : Value.string "" = item := Except.ok.inj further
    exact both

end PayloadTemplate.Render
