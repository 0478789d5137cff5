import PayloadTemplate.Proofs.Render.Recursion

/-!
Which source an error is about.  What goes wrong in the template of a variable is not reported of
the source that refers to it, but for the limit on variables: every other error is about a
character, a token, a path or a loop of the source itself.
-/

namespace PayloadTemplate.Render

open Loop Template

/-! ## What the items of a source ask for -/

/-- Items ask for the value of a path under some bindings. -/
inductive Asks (values : Resolve) (items : List Item) (path : String) : Bindings → Prop where
  /-- A reference or condition asks for it under each choice of keys for the loops around. -/
  | reads {enclosing : Enclosing} {item : Item} {bindings : Bindings}
      (member : (enclosing, item) ∈ sites [] items) (reads : readPath? item = some path)
      (assigned : Assigns (activeLoops values enclosing) bindings) : Asks values items path bindings
  /-- A loop asks for what it ranges over without the keys of the loops around. -/
  | ranges {enclosing : Enclosing} {index : Char} {body : List Item}
      (member : (enclosing, .loop index path body) ∈ sites [] items) : Asks values items path []

/-- An error that a path or a loop of the items gives rise to. -/
inductive OwnError (engine : Engine) (payload : Value) (definitions : Option Lookup)
    (items : List Item) : RenderError → Prop where
  /-- One of the paths begins with a word that has no values. -/
  | unsupportedRoot {path : String} {bindings : Bindings}
      (asks : Asks (engine.valuesAt payload definitions 0) items path bindings)
      (notData : pathRoot path ≠ "data") (notVariable : pathRoot path ≠ "config")
      (notKey : pathRoot path ≠ "key") :
      OwnError engine payload definitions items (.resolution (.unsupportedRoot path))
  /-- One of the paths names a variable, and there are none. -/
  | noVariables {path : String} {bindings : Bindings}
      (asks : Asks (engine.valuesAt payload definitions 0) items path bindings)
      (root : pathRoot path = "config") (missing : definitions = none) :
      OwnError engine payload definitions items (.resolution .noVariables)
  /-- One of the paths names a loop and is asked for outside all loops. -/
  | outsideLoops {path : String}
      (asks : Asks (engine.valuesAt payload definitions 0) items path [])
      (root : pathRoot path = "key") :
      OwnError engine payload definitions items (.resolution .outsideLoops)
  /-- One of the loops ranges over a value that is neither a sequence nor a map. -/
  | notIterable {enclosing : Enclosing} {index : Char} {source : String} {body : List Item}
      {value : Value} (member : (enclosing, .loop index source body) ∈ sites [] items)
      (found : (engine.valuesAt payload definitions 0 source []).outcome = .ok value)
      (noSequence : value.kind ≠ .sequence) (noMap : value.kind ≠ .map) :
      OwnError engine payload definitions items (.resolution (.notIterable source value.kind))
  /-- One of the loops has, with those around it, more combinations than can be counted. -/
  | tooManyCombinations {enclosing : Enclosing} {index : Char} {source : String}
      {body : List Item} (member : (enclosing, .loop index source body) ∈ sites [] items)
      (overflow : ¬Countable (engine.valuesAt payload definitions 0)
        ((index, source) :: enclosing)) :
      OwnError engine payload definitions items (.loop (.tooManyCombinations index.toString))
  /-- One of the paths names a variable from which further variables are reached beyond the
  limit. -/
  | recursionLimit {path : String} {bindings : Bindings}
      (asks : Asks (engine.valuesAt payload definitions 0) items path bindings)
      (root : pathRoot path = "config") :
      OwnError engine payload definitions items (.recursionLimit engine.maxDepth)

/-! ## What is reported -/

section Reports

variable {engine : Engine} {payload : Value} {definitions : Option Lookup} {items : List Item}
  {error : RenderError}

/-- Inside a variable, the only error that ends the whole render is the limit of the engine. -/
theorem renderNested_fatal {scope : Scope} {template : String}
    (failed : (engine.renderNested scope template).outcome = .error error)
    (fatal : error.isFatal = true) : error = .recursionLimit engine.maxDepth := by
  -- All other errors stay within the variable.
  cases error with
  | recursionLimit reported => rw [(renderWithin_leads failed).1]
  | _ => cases fatal

/-- A path that cannot be resolved is to blame for the error, or the limit has been exceeded in a
variable that it names. -/
theorem Asks.ownError {path : String} {bindings : Bindings}
    (asks : Asks (engine.valuesAt payload definitions 0) items path bindings)
    (failed : (engine.valuesAt payload definitions 0 path bindings).outcome = .error error) :
    OwnError engine payload definitions items error := by
  -- Each reason why a path has no value is one of the errors, or comes from inside a variable.
  cases resolve_eq_error failed with
  | unsupportedRoot notData notVariable notKey =>
    exact .unsupportedRoot asks notData notVariable notKey
  | noVariables root missing => exact .noVariables asks root missing
  | outsideLoops root unbound =>
    subst unbound
    exact .outsideLoops asks root
  | fatal root _ inner escapes =>
    obtain rfl := renderNested_fatal inner escapes
    exact .recursionLimit asks root

/-- The failure of an item is an error of the items among which it stands. -/
theorem Fault.ownError {enclosing : Enclosing} {item : Item}
    (fault : Fault (engine.valuesAt payload definitions 0) enclosing item error)
    (member : (enclosing, item) ∈ sites [] items) :
    OwnError engine payload definitions items error := by
  -- References and conditions ask under the keys of the loops, the loops themselves without them.
  cases fault with
  | unreadable reads assigned failed => exact (Asks.reads member reads assigned).ownError failed
  | unresolved failed => exact (Asks.ranges member).ownError failed
  | @notIterable _ _ _ value found refused =>
    -- Only sequences and maps have a domain.
    have other : value.kind ≠ .sequence ∧ value.kind ≠ .map := by
      cases value with
      | sequence _ => cases refused
      | map _ => cases refused
      | _ => exact ⟨nofun, nofun⟩
    exact .notIterable member found other.1 other.2
  | uncountable overflow => exact .tooManyCombinations member overflow

/-- A source that fails cannot be read, or else one of its items is to blame. -/
theorem tryRender_eq_error {source : String} (nonempty : source ≠ "")
    (failed : (engine.tryRender source payload definitions).outcome = .error error) :
    itemsOf source = .error error ∨
      ∃ items, itemsOf source = .ok items ∧ OwnError engine payload definitions items error := by
  -- Either the source is not read, or the fault lies at one of its items.
  rcases renderWithin_eq_error nonempty failed with unread | ⟨items, parsed, site, member, fault⟩
  · exact .inl unread
  · exact .inr ⟨items, parsed, fault.ownError member⟩

/-- What cannot be read is reported of the source that is rendered, and of no other. -/
theorem tryRender_eq_unread_iff {source : String} (nonempty : source ≠ "")
    (foreign : ∀ items, ¬OwnError engine payload definitions items error) :
    (engine.tryRender source payload definitions).outcome = .error error ↔
      itemsOf source = .error error := by
  constructor
  · -- The items are not to blame, so it is the source that cannot be read.
    intro failed
    rcases tryRender_eq_error nonempty failed with own | ⟨items, _, other⟩
    · exact own
    · exact absurd other (foreign items)
  · -- The source is read before anything else.
    intro failed
    rw [Engine.tryRender_outcome nonempty, failed]
    rfl

end Reports

/-- Errors inside the templates of variables are not reported as errors of the source that refers to
them.  A render reports an illegal character or a mistake in the grammar exactly when it is that of
the source itself, whatever the payload and the variables hold; and of a source without such
mistakes it only reports what a path or a loop of that source gives rise to, or that variables nest
beyond the limit. -/
theorem errors_are_about_the_source (engine : Engine) (payload : Value)
    (definitions : Option Lookup) {source : String} (nonempty : source ≠ "") :
    (∀ fault, (engine.tryRender source payload definitions).outcome = .error (.lexical fault) ↔
      tokens source = .error fault) ∧
    (∀ fault, (engine.tryRender source payload definitions).outcome = .error (.parse fault) ↔
      ∃ found, tokens source = .ok found ∧ parse found = .error fault) ∧
    ∀ found items, tokens source = .ok found → parse found = .ok items →
      ∀ error, (engine.tryRender source payload definitions).outcome = .error error →
        OwnError engine payload definitions items error := by
  refine ⟨fun fault => ?_, fun fault => ?_, fun found items scanned parsed error failed => ?_⟩
  · -- No path and no loop gives rise to an illegal character.
    have foreign : ∀ items, ¬OwnError engine payload definitions items (.lexical fault) :=
      fun _ => nofun
    rw [tryRender_eq_unread_iff nonempty foreign, itemsOf_eq_error_iff]
    simp
  · -- Nor to a mistake in the grammar.
    have foreign : ∀ items, ¬OwnError engine payload definitions items (.parse fault) :=
      fun _ => nofun
    rw [tryRender_eq_unread_iff nonempty foreign, itemsOf_eq_error_iff]
    simp
  · -- A source that is read has no mistakes of these two kinds.
    have read : itemsOf source = .ok items := itemsOf_eq_ok_iff.mpr ⟨found, scanned, parsed⟩
    rcases tryRender_eq_error nonempty failed with unread | ⟨others, again, own⟩
    · rw [read] at unread
      cases unread
    · rw [read] at again
      cases again
      exact own

/-- Variables whose templates hold an illegal character, an unfinished expression and a path that
cannot be resolved. -/
def broken : Lookup := fun name =>
  List.lookup name [("character", "$\x7b?\x7d"), ("grammar", "$\x7bif"), ("path", "$env.home")]

/-- A source that refers to all of them and has a loop over the payload. -/
def overview : String :=
  "$config.character$config.grammar$config.path$\x7bfor i in data\x7d-$\x7bendfor\x7d"

/-- What is wrong in the variables is not reported; a loop over a truth value is, and so is an
illegal character behind a variable that cannot be rendered. -/
theorem errors_are_about_the_source_broken :
    overview ≠ "" ∧ tokens "$\x7b?\x7d" = .error ⟨'?', 2⟩ ∧
      ((Engine.mk 3).tryRender overview (.bool true) (some broken)).outcome =
        .error (.resolution (.notIterable "data" .boolean)) ∧
      OwnError ⟨3⟩ (.bool true) (some broken)
        [.reference "config.character", .reference "config.grammar", .reference "config.path",
          .loop 'i' "data" [.text "-"]]
        (.resolution (.notIterable "data" .boolean)) ∧
      (∀ fault, tokens overview ≠ .error fault) ∧
      ((Engine.mk 3).tryRender "$config.path$\x7b?\x7d" (.bool true) (some broken)).outcome =
        .error (.lexical ⟨'?', 14⟩) := by
  have nonempty : overview ≠ "" := by decide
  have failed : ((Engine.mk 3).tryRender overview (.bool true) (some broken)).outcome =
      .error (.resolution (.notIterable "data" .boolean)) := by decide +kernel
  have scanned : tokens overview = .ok [.shortcut "config.character", .shortcut "config.grammar",
      .shortcut "config.path", .exprStart, .keyword .forWord, .index 'i', .keyword .inWord,
      .path "data", .exprEnd, .text '-', .exprStart, .keyword .endForWord, .exprEnd] := by
    decide +kernel
  -- The templates of the variables are broken as well, and none of that is reported.
  have reported := errors_are_about_the_source ⟨3⟩ (.bool true) (some broken) nonempty
  refine ⟨nonempty, by decide +kernel, failed, reported.2.2 _ _ scanned rfl _ failed,
    fun fault unread => ?_, ?_⟩
  · -- Otherwise that error would have been reported instead.
    rw [(reported.1 fault).mpr unread] at failed
    cases failed
  · exact ((errors_are_about_the_source ⟨3⟩ (.bool true) (some broken) (by decide)).1 _).mpr
      (by decide +kernel)

end PayloadTemplate.Render
