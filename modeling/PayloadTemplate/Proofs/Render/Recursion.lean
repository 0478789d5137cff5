import PayloadTemplate.Proofs.Render.Faults
import PayloadTemplate.Proofs.Render.Journal

/-!
The limit on variables that refer to variables.  It ends every render, whatever the variables refer
to, and it is exceeded only where the references of the source really nest that deep.
-/

namespace PayloadTemplate.Render

open Loop Template

/-! ## The guard alone ends every render -/

/-- Renders of all depths that refer to those of the next depth, with nothing to stop them but the
limit.  An empty source has no result even beyond it. -/
def Guarded (engine : Engine) (payload : Value) (definitions : Option Lookup)
    (render : Nat → String → Rendering (Option String)) : Prop :=
  ∀ depth source, render depth source =
    if source.isEmpty then return none
    else if engine.maxDepth < depth then throw (.recursionLimit engine.maxDepth)
    else Rendering.within depth do
      let tokens ← tokenize source
      let items ← build tokens
      let texts ← Walk.start
        (renderItems (resolve ⟨payload, definitions, depth⟩ (render (depth + 1))) items)
      singleText texts

section Guard

variable {engine : Engine} {payload : Value} {definitions : Option Lookup}

/-- The depths that are left are those up to the limit. -/
theorem guarded_renderWithin :
    Guarded engine payload definitions fun depth =>
      renderWithin engine.maxDepth payload definitions (engine.maxDepth + 1 - depth) depth := by
  intro depth source
  dsimp only
  by_cases beyond : engine.maxDepth < depth
  · have used : engine.maxDepth + 1 - depth = 0 := by omega
    rw [used, renderWithin, if_pos beyond]
  · -- One of the depths that are left is used up.
    have left : engine.maxDepth + 1 - depth = engine.maxDepth - depth + 1 := by omega
    have next : engine.maxDepth + 1 - (depth + 1) = engine.maxDepth - depth := by omega
    rw [left, renderWithin, if_neg beyond, next]

/-- Only one family of renders obeys the guard. -/
theorem Guarded.unique {first second : Nat → String → Rendering (Option String)}
    (guarded : Guarded engine payload definitions first)
    (other : Guarded engine payload definitions second) : first = second := by
  -- The induction is on the depths that are left; beyond the limit no render refers to another.
  have agree : ∀ left depth, engine.maxDepth + 1 - depth = left → first depth = second depth := by
    intro left
    induction left with
    | zero =>
      intro depth used
      -- Beyond the limit both are the same error.
      have beyond : engine.maxDepth < depth := by omega
      funext source
      rw [guarded, other, if_pos beyond, if_pos beyond]
    | succ left ih =>
      intro depth rest
      funext source
      rw [guarded, other, ih (depth + 1) (by omega)]
  funext depth
  exact agree _ depth rfl

end Guard

/-! ## The depths at which sources are read -/

/-- A diagnostic arises inside renders of neighbouring depths, from a first depth on and not beyond
a bound, and if it is about a variable, then about one whose template is rendered within the
bound. -/
def Nests (first bound : Nat) (entry : Entry) : Prop :=
  ∃ further, first + further ≤ bound ∧ entry.renders = List.range' first (further + 1) ∧
    ∀ depth error, entry.diagnostic = .variableFailed depth error → depth ≤ bound

/-- What nests inside a render of the next depth nests inside this one as well. -/
theorem Nests.outward {first bound : Nat} {entry : Entry} (nests : Nests (first + 1) bound entry) :
    Nests first bound ⟨first :: entry.renders, entry.diagnostic⟩ := by
  -- One more render lies around the entry, at the depth before.
  obtain ⟨further, within, renders, failures⟩ := nests
  refine ⟨further + 1, by omega, ?_, failures⟩
  rw [renders]
  rfl

section Depths

variable {limit bound : Nat} {payload : Value} {definitions : Option Lookup}

/-- Reading a source leaves diagnostics of its own. -/
theorem read_leaves {allowed : Entry → Prop} (own : AllowsOwn allowed) (source : String) :
    (tokenize source >>= build).Leaves allowed := by
  -- Reading logs one message for the tokens and one for the items, both of this render.
  refine Rendering.Leaves.bind ?_ fun tokens _ => ?_
  · unfold tokenize
    exact .bind (.ofExcept _ _) fun _ _ => .bind (.log (own _ rfl)) fun _ _ => .pure _
  · unfold build
    exact .bind (.ofExcept _ _) fun _ _ => .bind (.log (own _ rfl)) fun _ _ => .pure _

/-- Renders whose allowance reaches up to a bound leave their diagnostics within it. -/
theorem renderWithin_leaves :
    ∀ {allowance depth : Nat} {source : String}, depth + allowance = bound + 1 →
      (renderWithin limit payload definitions allowance depth source).Leaves
        (Nests depth bound) := by
  intro allowance
  -- The induction is on the allowance; each render inside reaches up to the same bound.
  induction allowance with
  | zero =>
    intro depth source _
    rw [renderWithin]
    split
    · exact .pure _
    · exact .throw _
  | succ allowance ih =>
    intro depth source reaches
    rw [renderWithin]
    split
    · exact .pure _
    -- What arises in this render alone has no other render around it.
    have own : AllowsOwn fun entry =>
        Nests depth bound ⟨depth :: entry.renders, entry.diagnostic⟩ := by
      intro diagnostic plain
      refine ⟨0, by omega, rfl, ?_⟩
      rintro _ _ rfl
      cases plain
    -- What arises in the template of a variable does so at the next depth.
    have inside : ∀ template,
        (renderWithin limit payload definitions allowance (depth + 1) template).Leaves
          fun entry => Nests depth bound ⟨depth :: entry.renders, entry.diagnostic⟩ :=
      fun template => (ih (by omega)).mono fun _ => Nests.outward
    have failures : ∀ template error,
        (renderWithin limit payload definitions allowance (depth + 1) template).outcome =
          .error error → error.isFatal = false →
            Nests depth bound ⟨[depth], .variableFailed (depth + 1) error⟩ := by
      intro template error failed harmless
      refine ⟨0, by omega, rfl, ?_⟩
      rintro _ _ same
      cases same
      -- Beyond the bound only the limit is reported, and that is not harmless.
      cases allowance with
      | zero =>
        unfold renderWithin at failed
        split at failed <;> cases failed
        cases harmless
      | succ _ => omega
    have paths : ∀ path bindings, (resolve ⟨payload, definitions, depth⟩
        (renderWithin limit payload definitions allowance (depth + 1)) path bindings).Leaves
          fun entry => Nests depth bound ⟨depth :: entry.renders, entry.diagnostic⟩ :=
      resolve_leaves own inside failures
    refine .within ?_
    rw [← bind_assoc]
    -- The source is read, its items are rendered, and their text is put together.
    refine .bind (read_leaves own source) fun items _ => ?_
    refine .bind (Walk.Leaves.start (renderItems_leaves own paths items)) fun texts _ => ?_
    unfold singleText
    split
    · exact .pure _
    · exact .throw _

end Depths

/-! ## The references that exceed a limit -/

/-- The path that an item refers to: the one it prints or tests or that its loop ranges over. -/
def pathOf? : Item → Option String
  | .loop _ source _ => some source
  | item => readPath? item

/-- Whether a path to a variable of some name stands anywhere in a source. -/
def Refers (source name : String) : Prop :=
  ∃ items, itemsOf source = .ok items ∧ ∃ site ∈ sites [] items, ∃ path,
    pathOf? site.2 = some path ∧ pathRoot path = "config" ∧ pathName path = name

/-- Whether references lead from a source through variables of these names, one from the template of
the other, to a template that is not empty. -/
inductive Leads (definitions : Option Lookup) : String → List String → Prop where
  /-- Through no variable one arrives where one is. -/
  | here {source : String} (nonempty : source ≠ "") : Leads definitions source []
  /-- The source refers to the first variable, and the others are reached from its template. -/
  | through {source name template : String} {names : List String} (refers : Refers source name)
      (defined : templateOf? definitions name = some template)
      (further : Leads definitions template names) : Leads definitions source (name :: names)

section Chains

variable {limit : Nat} {payload : Value} {definitions : Option Lookup}

/-- An item that fails in a fatal way refers to a variable whose template does. -/
theorem Fault.exists_template {depth : Nat} {nested : NestedRender} {enclosing : Enclosing}
    {item : Item} {error : RenderError}
    (fault : Fault (resolve ⟨payload, definitions, depth⟩ nested) enclosing item error)
    (fatal : error.isFatal = true) :
    ∃ path template, pathOf? item = some path ∧ pathRoot path = "config" ∧
      templateOf? definitions (pathName path) = some template ∧
        (nested template).outcome = .error error := by
  -- Errors of resolution alone are not fatal.
  have reached : ∀ {path bindings},
      (resolve ⟨payload, definitions, depth⟩ nested path bindings).outcome = .error error →
        ∃ template, pathRoot path = "config" ∧
          templateOf? definitions (pathName path) = some template ∧
            (nested template).outcome = .error error := by
    intro path bindings failed
    cases resolve_eq_error failed with
    | fatal root defined failed _ => exact ⟨_, root, defined, failed⟩
    | _ => cases fatal
  -- The path that fails is one that the item has, and the other faults are not fatal.
  cases fault with
  | @unreadable _ path _ _ reads _ failed =>
    obtain ⟨template, found⟩ := reached failed
    refine ⟨path, template, ?_, found⟩
    cases item with
    | loop _ _ _ => cases reads
    | _ => exact reads
  | @unresolved _ source _ _ failed =>
    obtain ⟨template, found⟩ := reached failed
    exact ⟨source, template, rfl, found⟩
  | notIterable _ _ => cases fatal
  | uncountable _ => cases fatal

/-- Where the limit is reported, references lead through one variable for each depth that had been
allowed. -/
theorem renderWithin_leads :
    ∀ {allowance depth : Nat} {source : String} {reported : Nat},
      (renderWithin limit payload definitions allowance depth source).outcome =
        .error (.recursionLimit reported) →
          reported = limit ∧
            ∃ names, names.length = allowance ∧ Leads definitions source names := by
  intro allowance
  -- The induction is on the allowance: each variable on the way uses up one depth of it.
  induction allowance with
  | zero =>
    intro depth source reported failed
    -- Only a source that is not empty exceeds the limit where it stands.
    unfold renderWithin at failed
    split at failed
    · cases failed
    · rename_i filled
      cases failed
      exact ⟨rfl, [], rfl, .here (by simpa using filled)⟩
  | succ allowance ih =>
    intro depth source reported failed
    by_cases nonempty : source = ""
    · subst nonempty
      cases failed
    rcases renderWithin_eq_error nonempty failed with unread | ⟨items, parsed, site, member, fault⟩
    · -- A source that cannot be read does not report the limit.
      rcases itemsOf_eq_error unread with ⟨_, other⟩ | ⟨_, other⟩
      · cases other
      · cases other
    -- The limit has been reported by a variable that the source refers to.
    obtain ⟨path, template, refers, root, defined, inner⟩ := fault.exists_template rfl
    obtain ⟨same, names, length, leads⟩ := ih inner
    refine ⟨same, pathName path :: names, by rw [List.length_cons, length], ?_⟩
    exact .through ⟨items, parsed, site, member, path, refers, root, rfl⟩ defined leads

end Chains

/-- Whatever the variables refer to, the limit ends all renders: those of all depths are determined
by each other under the guard alone, and all that a render reports, the reading of sources included,
arises in renders of depths up to the limit.  The limit is reported as it is, and only where
references lead from the source through one variable more than it allows, the last of which is not
empty; so references that nest no deeper than the limit never exceed it. -/
theorem recursion_is_guarded (engine : Engine) (payload : Value) (definitions : Option Lookup) :
    (∃ render, Guarded engine payload definitions render ∧
      (∀ other, Guarded engine payload definitions other → other = render) ∧
      (∀ source, engine.tryRender source payload definitions = render 0 source) ∧
      ∀ depth, engine.renderNested ⟨payload, definitions, depth⟩ = render (depth + 1)) ∧
    ∀ source,
      (∀ entry ∈ (engine.tryRender source payload definitions).run.entries,
        (∃ depth, depth ≤ engine.maxDepth ∧ entry.renders = List.range (depth + 1)) ∧
          ∀ depth error, entry.diagnostic = .variableFailed depth error →
            depth ≤ engine.maxDepth) ∧
      (∀ reported,
        (engine.tryRender source payload definitions).outcome =
          .error (.recursionLimit reported) →
            reported = engine.maxDepth ∧
              ∃ names, names.length = engine.maxDepth + 1 ∧ Leads definitions source names) ∧
      ((∀ names, Leads definitions source names → names.length ≤ engine.maxDepth) →
        ∀ reported,
          (engine.tryRender source payload definitions).outcome ≠
            .error (.recursionLimit reported)) := by
  refine ⟨⟨_, guarded_renderWithin, fun other guarded => guarded.unique guarded_renderWithin,
    fun _ => rfl, fun depth => ?_⟩, fun source => ⟨?_, ?_, ?_⟩⟩
  · -- One more depth has been used up in the next render.
    rw [Nat.add_sub_add_right]
    rfl
  · intro entry member
    obtain ⟨further, within, renders, failures⟩ :=
      renderWithin_leaves (Nat.zero_add _) entry member
    refine ⟨⟨further, by omega, ?_⟩, failures⟩
    rw [renders, List.range_eq_range']
  · intro reported failed
    exact renderWithin_leads failed
  · intro shallow reported failed
    -- References that exceed the limit would be too many.
    obtain ⟨_, names, length, leads⟩ := renderWithin_leads failed
    have few := shallow names leads
    omega

/-- A variable that refers to itself. -/
def mirror : Lookup := fun name => if name = "me" then some "$config.me" else none

/-- A variable that refers to nothing. -/
def letter : Lookup := fun name => if name = "a" then some "x" else none

/-- No two references follow each other where templates refer to nothing. -/
theorem leads_letter {source : String} {names : List String}
    (leads : Leads (some letter) source names) : names.length ≤ 1 := by
  cases leads with
  | here _ => exact Nat.zero_le 1
  | @through _ name template _ _ defined further =>
    -- There is one variable, and its template is a letter.
    have plain : template = "x" := by
      have found : letter name = some template := defined
      unfold letter at found
      split at found <;> cases found
      rfl
    subst plain
    cases further with
    | here _ => exact Nat.le_refl 1
    | through refers _ _ =>
      -- The only item of the template is its letter.
      obtain ⟨items, parsed, site, member, path, refers, _⟩ := refers
      have single : itemsOf "x" = .ok [.text "x"] :=
        itemsOf_eq_ok_iff.mpr ⟨[.text 'x'], by decide +kernel, rfl⟩
      rw [single] at parsed
      cases parsed
      rw [sites, inside, sites, List.append_nil, List.mem_singleton] at member
      subst member
      cases refers

/-- A variable that refers to itself exceeds every limit, and one that refers to nothing does not
exceed the limit of one depth. -/
theorem recursion_is_guarded_mirror :
    Guarded ⟨1⟩ .null (some letter)
        (fun depth => renderWithin 1 .null (some letter) (1 + 1 - depth) depth) ∧
      (Engine.mk 1).tryRender "$config.a" .null (some letter) =
        renderWithin 1 .null (some letter) 2 0 "$config.a" ∧
      ⟨[0, 1], .tokenized 1⟩ ∈
        ((Engine.mk 1).tryRender "$config.a" .null (some letter)).run.entries ∧
      (∃ depth, depth ≤ 1 ∧ [0, 1] = List.range (depth + 1)) ∧
      ((Engine.mk 1).tryRender "$config.me" .null (some mirror)).outcome =
        .error (.recursionLimit 1) ∧
      (∃ names, names.length = 2 ∧ Leads (some mirror) "$config.me" names) ∧
      (∀ names, Leads (some letter) "$config.a" names → names.length ≤ 1) ∧
      ((Engine.mk 1).tryRender "$config.a" .null (some letter)).outcome ≠
        .error (.recursionLimit 1) := by
  have guarded := recursion_is_guarded ⟨1⟩ .null (some letter)
  obtain ⟨render, _, unique, top, _⟩ := guarded.1
  -- The letter refers to nothing further, and the mirror to itself.
  have member : ⟨[0, 1], .tokenized 1⟩ ∈
      ((Engine.mk 1).tryRender "$config.a" .null (some letter)).run.entries := by
    decide +kernel
  have exceeded : ((Engine.mk 1).tryRender "$config.me" .null (some mirror)).outcome =
      .error (.recursionLimit 1) := by
    decide +kernel
  refine ⟨guarded_renderWithin, ?_, member, ((guarded.2 _).1 _ member).1, exceeded,
    (((recursion_is_guarded ⟨1⟩ .null (some mirror)).2 _).2.1 _ exceeded).2,
    fun _ leads => leads_letter leads,
    (guarded.2 _).2.2 (fun _ leads => leads_letter leads) 1⟩
  -- The family of renders that obeys the guard is the only one.
  rw [top, ← unique _ guarded_renderWithin]
  rfl

end PayloadTemplate.Render
