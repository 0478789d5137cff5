import PayloadTemplate.Proofs.Variables.Runs

/-!
What tables inherit.  The nearest table on the way up that has an answer gives it, and a change of
parent is not noticed by tables whose way up does not pass the changed one.
-/

namespace PayloadTemplate.Variables

/-! ## Tables without empty properties -/

/-- A table holds no empty destination and no empty template file. -/
structure Table.Proper (table : Table) : Prop where
  /-- The destination is absent or not empty. -/
  destination : table.destination ≠ some ""
  /-- The template file is absent or not empty. -/
  template : table.template ≠ some ""

/-- A property is never the empty text. -/
theorem property_ne_empty (value : String) : property value ≠ some "" := by
  -- The empty text has been turned into nothing.
  unfold property
  split
  · simp
  · rename_i filled
    simpa using filled

/-- No entry leaves a table with an empty property. -/
theorem Table.Proper.add {table : Table} (proper : table.Proper) (entry : String × String) :
    (table.add entry).Proper := by
  -- An entry sets one of the two properties, or it sets neither.
  unfold Table.add
  dsimp only
  split
  · exact ⟨property_ne_empty entry.2, proper.template⟩
  · split
    · exact ⟨proper.destination, property_ne_empty entry.2⟩
    · split
      · exact proper
      · exact ⟨proper.destination, proper.template⟩

/-- The table of a section has no empty property. -/
theorem Table.proper_ofEntries (name : String) (entries : List (String × String)) :
    (Table.ofEntries name entries).Proper := by
  -- The entries are added to a table without properties.
  have general : ∀ table : Table, table.Proper → (entries.foldl Table.add table).Proper := by
    induction entries with
    | nil => exact fun _ proper => proper
    | cons entry rest ih => exact fun table proper => ih _ (proper.add entry)
  exact general { name } ⟨by simp, by simp⟩

/-! ## Questions and the nearest answer -/

/-- What a table may inherit from others. -/
inductive Question where
  /-- The template of a variable. -/
  | source (name : String)
  /-- The destination. -/
  | destination
  /-- The template file. -/
  | template
  deriving DecidableEq, Repr

/-- What a table holds of its own. -/
def Question.held? : Question → Table → Option String
  | .source name, table => table.own? name
  | .destination, table => table.destination
  | .template, table => table.template

/-- The answer of a table on its own: an empty variable is one, an empty property is none. -/
def Question.own? : Question → Table → Option String
  | .source name, table => table.own? name
  | .destination, table => table.destination.filter (· != "")
  | .template, table => table.template.filter (· != "")

/-- Where no property is empty, all that a table holds is an answer. -/
theorem Table.Proper.own?_eq {table : Table} (proper : table.Proper) (question : Question) :
    question.own? table = question.held? table := by
  -- An empty property would have to be passed over, but a proper table has none.
  have filled : ∀ {property : Option String}, property ≠ some "" →
      property.filter (· != "") = property := by
    intro property nonempty
    cases property with
    | none => rfl
    | some value => simpa using nonempty
  cases question with
  | source name => rfl
  | destination => exact filled proper.destination
  | template => exact filled proper.template

/-- The nearest answer on the way up: no table in front of the one that gives it has any. -/
inductive Nearest (pick : Table → Option String) :
    List (TableId × Table) → Option String → Prop where
  /-- No table on the way has an answer. -/
  | nowhere {chain : List (TableId × Table)} (silent : ∀ entry ∈ chain, pick entry.2 = none) :
      Nearest pick chain none
  /-- The answer is that of a table behind others that have none. -/
  | found {before after : List (TableId × Table)} {entry : TableId × Table} {answer : String}
      (silent : ∀ nearer ∈ before, pick nearer.2 = none) (answers : pick entry.2 = some answer) :
      Nearest pick (before ++ entry :: after) (some answer)

/-- A search through a list finds the nearest answer. -/
theorem nearest_findSome? {pick other : Table → Option String} {chain : List (TableId × Table)}
    (same : ∀ entry ∈ chain, pick entry.2 = other entry.2) :
    Nearest pick chain (chain.findSome? fun entry => other entry.2) := by
  -- The search passes the tables that have no answer and stops at the first one that has.
  cases outcome : chain.findSome? fun entry => other entry.2 with
  | none =>
    refine .nowhere fun entry member => ?_
    rw [same entry member]
    exact List.findSome?_eq_none_iff.mp outcome entry member
  | some answer =>
    obtain ⟨before, entry, after, rfl, answers, silent⟩ := List.findSome?_eq_some_iff.mp outcome
    refine .found (fun nearer member => ?_) ?_
    · rw [same nearer (List.mem_append_left _ member)]
      exact silent nearer member
    · rw [same entry (List.mem_append_right _ List.mem_cons_self)]
      exact answers

namespace Registry

/-- The answer of a table in a registry, inherited if need be. -/
def answer? (registry : Registry) (id : TableId) : Question → Option String
  | .source name => registry.sourceOf? id name
  | .destination => registry.destination? id
  | .template => registry.template? id

/-- It is an invariant that no table holds an empty property. -/
theorem proper_invariant : Invariant fun registry => ∀ table ∈ registry.tables, table.Proper :=
  tables_invariant Table.proper_ofEntries fun _ _ proper => ⟨proper.destination, proper.template⟩

section Answers

variable {registry : Registry} {id child parent : TableId} {chain : List (TableId × Table)}

/-- Every question is answered by a search along the way up. -/
theorem Chain.answer?_eq (whole : registry.Chain id chain) (question : Question) :
    registry.answer? id question = chain.findSome? fun entry => question.held? entry.2 := by
  -- The bounded walk sees all of the way.
  rw [← whole.lineage_eq]
  cases question <;> rfl

/-- The answer of a table is the nearest one on its way up. -/
theorem Chain.nearest (whole : registry.Chain id chain)
    (proper : ∀ table ∈ registry.tables, table.Proper) (question : Question) :
    Nearest question.own? chain (registry.answer? id question) := by
  rw [whole.answer?_eq]
  -- The tables on the way are tables of the registry, so what they hold is what they answer.
  refine nearest_findSome? fun entry member => ?_
  have found := (whole.of_mem member).1
  exact (proper entry.2 (List.mem_of_getElem? found)).own?_eq question

/-- A change of parent changes no answer of a table whose way up does not pass the changed one. -/
theorem Chain.answer?_relink (whole : registry.Chain id chain) (parent : TableId)
    (apart : ∀ entry ∈ chain, entry.1 ≠ child) (question : Question) :
    (registry.relink child parent).answer? id question = registry.answer? id question := by
  -- The way up is the same before and after.
  rw [whole.answer?_eq, (whole.relink_of_apart parent apart).answer?_eq]

/-- The changed table answers itself what it can, and leaves all else to its new parent. -/
theorem Chain.answer?_relinked {table : Table} (above : registry.Chain parent chain)
    (apart : ∀ entry ∈ chain, entry.1 ≠ child) (found : registry.get? child = some table)
    (question : Question) :
    (registry.relink child parent).answer? child question =
      (question.held? table).or (registry.answer? parent question) := by
  -- Its way goes on with the one of the new parent, which does not pass it.
  have whole : (registry.relink child parent).Chain child _ :=
    .link (get?_relink_child.trans (by rw [found]; rfl)) rfl (above.relink_of_apart parent apart)
  have kept : question.held? { table with parent := some parent } = question.held? table := by
    cases question <;> rfl
  rw [whole.answer?_eq, List.findSome?_cons, kept, above.answer?_eq]
  cases question.held? table <;> rfl

end Answers

/-- In every registry that operations lead to, whatever a table is asked for is answered by the
first table on its way up that has an answer, and not at all if none has; an empty destination or
template file is no answer there, an empty variable is one.  When a parent is changed, the changed
table gives its own answer, or else the one that its new parent gave before; and the tables whose
way up does not pass it answer everything as before. -/
theorem nearest_definition_wins {registry : Registry} (reachable : registry.Reachable) :
    (∀ id, (registry.get? id).isSome → ∃ chain, registry.Chain id chain ∧
      ∀ question, Nearest question.own? chain (registry.answer? id question)) ∧
    ∀ child parent result, (registry.get? parent).isSome →
      (setParent child parent).result registry = (.ok (), result) →
        (∀ table question, registry.get? child = some table →
          result.answer? child question =
            (question.own? table).or (registry.answer? parent question)) ∧
        ∀ id chain, registry.Chain id chain → child ∉ chain.map Prod.fst →
          ∀ question, result.answer? id question = registry.answer? id question := by
  have linked := reachable.wellLinked
  have proper := proper_invariant.of_reachable reachable
  constructor
  · intro id here
    have whole := linked.chain_lineage here
    exact ⟨_, whole, whole.nearest proper⟩
  · intro child parent result there changed
    -- The change was made because the way of the new parent does not pass the table.
    obtain ⟨apart, rfl⟩ := setParent_eq_ok_iff.mp changed
    constructor
    · intro table question found
      -- The table is asked first, and then the tables that the new parent stands for.
      rw [(linked.chain_lineage there).answer?_relinked apart found,
        (proper table (List.mem_of_getElem? found)).own?_eq]
    · intro id chain whole outside question
      refine whole.answer?_relink parent (fun entry member same => outside ?_) question
      exact List.mem_map.mpr ⟨entry, member, same⟩

/-- Four sections.  The second one empties a variable and the destination of the first, the third
inherits from the second, and the fourth names a template file. -/
def crossing : Registry :=
  ofTables [
    { name := "default", definitions := [("who", "world")], destination := some "out" },
    { name := "base", definitions := [("who", "")], parent := some ⟨0⟩ },
    { name := "push", parent := some ⟨1⟩ },
    { name := "ping", template := some "ping.md", parent := some ⟨0⟩ }]

/-- The second section comes to inherit from the fourth. -/
theorem nearest_definition_wins_crossing :
    crossing.Reachable ∧
      (∃ chain, crossing.Chain ⟨2⟩ chain ∧
        Nearest (Question.source "WHO").own? chain (some "") ∧
        Nearest Question.destination.own? chain (some "out") ∧
        Nearest Question.template.own? chain none) ∧
      ∃ result, (setParent ⟨1⟩ ⟨3⟩).result crossing = (.ok (), result) ∧
        result.answer? ⟨1⟩ (.source "WHO") = some "" ∧
        result.answer? ⟨1⟩ .template = some "ping.md" ∧
        result.answer? ⟨3⟩ .destination = some "out" := by
  have built : ofSections [("default", [("Who", "world"), ("destination", "out")]),
      ("base", [("WHO", ""), ("Destination", "")]), ("push", [("parent", "base")]),
      ("ping", [("template", "ping.md")])] = .ok crossing := by decide +kernel
  obtain ⟨nearest, changes⟩ := nearest_definition_wins (.ofSections built)
  obtain ⟨chain, whole, answers⟩ := nearest ⟨2⟩ rfl
  -- The second table is put under the last one, which leaves the first one out.
  have changed : (setParent ⟨1⟩ ⟨3⟩).result crossing = (.ok (), crossing.relink ⟨1⟩ ⟨3⟩) := rfl
  obtain ⟨child, others⟩ := changes ⟨1⟩ ⟨3⟩ _ rfl changed
  refine ⟨.ofSections built, ⟨chain, whole, ?_, ?_, ?_⟩, _, changed, ?_, ?_, ?_⟩
  · have answer : crossing.answer? ⟨2⟩ (.source "WHO") = some "" := by decide +kernel
    exact answer ▸ answers (.source "WHO")
  · exact answers .destination
  · exact answers .template
  · exact (child _ (.source "WHO") rfl).trans (by decide +kernel)
  · exact child _ .template rfl
  · refine others ⟨3⟩ (crossing.lineage ⟨3⟩) ?_ (by decide +kernel) .destination
    exact .link rfl rfl (.root rfl rfl)

end Registry

end PayloadTemplate.Variables
