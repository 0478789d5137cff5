import PayloadTemplate.Proofs.Template.Reading

/-! The parser returns only what the tokens that it takes spell. -/

namespace PayloadTemplate.Template

/-- Items are followed by the end of the tokens or by an expression that opens with a closer. -/
def Stops (closers : List Keyword) (after : List Token) : Prop :=
  after = [] ∨ ∃ word ∈ closers, ∃ rest, after = .exprStart :: .keyword word :: rest

/-- The tokens of an expression, apart from its opening, which spell one item that is no text. -/
def SpellsExpression (item : Item) (tokens : List Token) : Prop :=
  -- Whatever items come next, their spelling goes behind the expression.
  item.isText = false ∧
    ∀ {rest later}, Spells rest later → Spells (item :: rest) (.exprStart :: tokens ++ later)

/-- What reading items promises: the tokens taken spell well-formed items, and reading stops
where it should. -/
structure ReadsItems (closers : List Keyword) (enclosing : List Char) (tokens : List Token)
    (items : List Item) (after : List Token) : Prop where
  /-- The tokens that were taken. -/
  taken : ∃ spelled, tokens = spelled ++ after ∧ Spells items spelled
  /-- The items fit into the loops around them. -/
  wellFormed : WellFormedItems enclosing items
  /-- Reading ends where a body may end. -/
  stops : Stops closers after
  /-- A text comes from characters. -/
  begins : startsWithText items = true → startsWithCharacter tokens = true

/-- What reading an expression promises: the tokens taken spell a well-formed item. -/
structure ReadsExpression (enclosing : List Char) (tokens : List Token) (item : Item)
    (after : List Token) : Prop where
  /-- The tokens that were taken. -/
  taken : ∃ spelled, tokens = spelled ++ after ∧ SpellsExpression item spelled
  /-- The item fits into the loops around it. -/
  wellFormed : item.WellFormed enclosing

/-- The items that some number of steps reads are what the tokens taken spell. -/
def ItemsSound (steps : Nat) : Prop :=
  ∀ {closers enclosing tokens items after},
    readItems steps closers enclosing tokens = .ok (items, after) →
      ReadsItems closers enclosing tokens items after

/-- The expression that some number of steps reads is what the tokens taken spell. -/
def ExpressionSound (steps : Nat) : Prop :=
  ∀ {enclosing tokens item after}, readExpression steps enclosing tokens = .ok (item, after) →
    ReadsExpression enclosing tokens item after

/-- An item and the items after it are read together. -/
theorem ReadsItems.cons {closers : List Keyword} {enclosing : List Char}
    {tokens later after : List Token} {item : Item} {rest : List Item} (spelled : List Token)
    (split : tokens = spelled ++ later) (spells : ∀ {others}, Spells rest others →
      Spells (item :: rest) (spelled ++ others))
    (wellFormed : item.WellFormed enclosing)
    (separate : item.isText = true → startsWithText rest = false)
    (begins : item.isText = true → startsWithCharacter tokens = true)
    (reads : ReadsItems closers enclosing later rest after) :
    ReadsItems closers enclosing tokens (item :: rest) after := by
  -- The tokens of the item stand in front of those of the others.
  obtain ⟨others, otherSplit, otherSpells⟩ := reads.taken
  refine ⟨⟨spelled ++ others, ?_, spells otherSpells⟩, ⟨wellFormed, separate, reads.wellFormed⟩,
    reads.stops, begins⟩
  rw [split, otherSplit, List.append_assoc]

/-- A body that is read up to its closer and accepted is spelled by the tokens it takes. -/
theorem readsBody {steps : Nat} {closers : List Keyword} {enclosing : List Char}
    {tokens after : List Token} {body : List Item}
    (itemsSound : ItemsSound steps)
    (accepted : ∃ items rest, readItems steps closers enclosing tokens = .ok (items, rest) ∧
      completeBody closers (items, rest) = .ok (body, after)) :
    ∃ inside, tokens = inside ++ after ∧ Spells body inside ∧ body ≠ [] ∧
      WellFormedItems enclosing body := by
  -- Completing a body changes nothing about it.
  obtain ⟨items, rest, read, complete⟩ := accepted
  obtain ⟨same, filled, _⟩ := completeBody_eq_ok_iff.mp complete
  cases same
  have reads := itemsSound read
  obtain ⟨inside, split, spells⟩ := reads.taken
  exact ⟨inside, split, spells, filled, reads.wellFormed⟩

/-- An expression is read together with the items after it. -/
theorem readsItems_of_expression {closers : List Keyword} {enclosing : List Char}
    {tokens later after : List Token} {item : Item} {rest : List Item}
    (first : ReadsExpression enclosing tokens item later)
    (reads : ReadsItems closers enclosing later rest after) :
    ReadsItems closers enclosing (.exprStart :: tokens) (item :: rest) after := by
  -- The item is no text, so it may stand next to any other.
  obtain ⟨spelled, split, notText, spells⟩ := first.taken
  refine .cons (.exprStart :: spelled) (by rw [split]; rfl) spells first.wellFormed ?_ ?_ reads
  · simp [notText]
  · simp [notText]

/-- A run of characters is read as one text, and no other text follows it. -/
theorem readsItems_of_text {closers : List Keyword} {enclosing : List Char} {character : Char}
    {tokens after : List Token} {items : List Item}
    (reads : ReadsItems closers enclosing (textRun tokens).2 items after) :
    ReadsItems closers enclosing (.text character :: tokens)
      (.text (String.ofList (character :: (textRun tokens).1)) :: items) after := by
  obtain ⟨split, stopped⟩ := textRun_append tokens
  -- The run ends before anything that could be a text of its own.
  have separate : startsWithText items = false := by
    cases starts : startsWithText items with
    | false => rfl
    | true =>
      rw [reads.begins starts] at stopped
      cases stopped
  have spelling : (String.ofList (character :: (textRun tokens).1)).toList.map Token.text =
      .text character :: (textRun tokens).1.map .text := by simp
  -- All the tokens of the run become one text, which no other text follows.
  refine .cons (.text character :: (textRun tokens).1.map .text) ?_ ?_ ?_
    (fun _ => separate) (fun _ => rfl) reads
  · rw [List.cons_append, ← split]
  · intro others later
    rw [← spelling]
    exact .text later
  · simp [Item.WellFormed]

/-- One more step keeps what reading items promises. -/
theorem readItems_sound {steps : Nat} (itemsSound : ItemsSound steps)
    (expressionSound : ExpressionSound steps) : ItemsSound (steps + 1) := by
  -- The first token decides which item is read, and what follows takes fewer steps.
  intro closers enclosing tokens items after accepted
  cases tokens with
  | nil =>
    -- The end of the tokens takes nothing.
    cases accepted
    exact ⟨⟨[], rfl, .nil⟩, trivial, .inl rfl, by simp [startsWithText]⟩
  | cons token rest =>
    cases token with
    | text character =>
      simp only [readItems_text, bind_eq_ok_iff, Prod.exists, pure_eq_ok_iff,
        Prod.mk.injEq] at accepted
      obtain ⟨others, _, read, rfl, rfl⟩ := accepted
      exact readsItems_of_text (itemsSound read)
    | escaped raw =>
      simp only [readItems_escaped, bind_eq_ok_iff, Prod.exists, pure_eq_ok_iff, Prod.mk.injEq,
        escapedChar_eq_ok_iff] at accepted
      obtain ⟨character, ⟨sign, pair⟩, others, _, read, rfl, rfl⟩ := accepted
      exact .cons [.escaped raw] rfl (.escaped pair) trivial (by simp [Item.isText])
        (by simp [Item.isText]) (itemsSound read)
    | shortcut path =>
      simp only [readItems_shortcut, bind_eq_ok_iff, Prod.exists, pure_eq_ok_iff,
        Prod.mk.injEq] at accepted
      obtain ⟨others, _, read, rfl, rfl⟩ := accepted
      exact .cons [.shortcut path] rfl .shortcut trivial (by simp [Item.isText])
        (by simp [Item.isText]) (itemsSound read)
    | exprStart =>
      by_cases closer : ∃ word ∈ closers, ∃ others, rest = .keyword word :: others
      · -- The closer is left for the block that it belongs to.
        obtain ⟨word, closes, others, rfl⟩ := closer
        rw [readItems_closer steps closers enclosing closes] at accepted
        cases accepted
        exact ⟨⟨[], rfl, .nil⟩, trivial, .inr ⟨word, closes, others, rfl⟩,
          by simp [startsWithText]⟩
      · -- A word that closes another block would have been refused.
        have opens : ∀ word others, rest = .keyword word :: others →
            word ∉ closers ∧ word.closesBlock = false := by
          intro word others same
          subst same
          have foreign : word ∉ closers := fun closes => closer ⟨word, closes, others, rfl⟩
          refine ⟨foreign, ?_⟩
          cases closes : word.closesBlock with
          | false => rfl
          | true =>
            rw [readItems_unexpected steps closers enclosing foreign closes] at accepted
            cases accepted
        rw [readItems_opening steps closers enclosing opens] at accepted
        simp only [bind_eq_ok_iff, Prod.exists, pure_eq_ok_iff, Prod.mk.injEq] at accepted
        obtain ⟨item, _, expression, others, _, read, rfl, rfl⟩ := accepted
        exact readsItems_of_expression (expressionSound expression) (itemsSound read)
    | _ =>
      -- All other tokens stand inside expressions only.
      cases accepted

/-- One more step keeps what reading an expression promises. -/
theorem readExpression_sound {steps : Nat} (itemsSound : ItemsSound steps) :
    ExpressionSound (steps + 1) := by
  -- The first words decide which block is opened, and its bodies take fewer steps.
  intro enclosing tokens item after accepted
  unfold readExpression at accepted
  split at accepted
  · -- A path is the whole expression.
    rename_i path rest
    simp only [bind_eq_ok_iff, expectToken_eq_ok_iff, pure_eq_ok_iff, Prod.mk.injEq] at accepted
    obtain ⟨_, rfl, rfl, rfl⟩ := accepted
    exact ⟨⟨[.path path, .exprEnd], rfl, rfl, .braced⟩, trivial⟩
  · -- A negated block has no second body.
    rename_i rest
    simp only [bind_eq_ok_iff, Prod.exists, expectPathEnd_eq_ok_iff, expectCloser_eq_ok_iff,
      pure_eq_ok_iff, Prod.mk.injEq] at accepted
    obtain ⟨condition, _, rfl, body, _, read, _, rfl, rfl, rfl⟩ := accepted
    obtain ⟨inside, rfl, spells, filled, wellFormed⟩ := readsBody itemsSound read
    refine ⟨⟨.keyword .ifWord :: .keyword .notWord :: .path condition :: .exprEnd ::
      (inside ++ closing .endIfWord), by simp, rfl, fun later => ?_⟩, filled, wellFormed⟩
    simpa using Spells.whenFalse spells later
  · rename_i rest _
    simp only [bind_eq_ok_iff, Prod.exists, expectPathEnd_eq_ok_iff] at accepted
    obtain ⟨condition, _, rfl, body, afterBody, read, accepted⟩ := accepted
    obtain ⟨inside, rfl, spells, filled, wellFormed⟩ := readsBody itemsSound read
    -- The word behind the first body tells whether there is a second one.
    split at accepted
    · simp only [bind_eq_ok_iff, Prod.exists, expectCloser_eq_ok_iff, pure_eq_ok_iff,
        Prod.mk.injEq] at accepted
      obtain ⟨_, rfl, refused, _, readRefused, _, rfl, rfl, rfl⟩ := accepted
      obtain ⟨second, rfl, spellsRefused, filledRefused, wellFormedRefused⟩ :=
        readsBody itemsSound readRefused
      refine ⟨⟨.keyword .ifWord :: .path condition :: .exprEnd ::
        (inside ++ (closing .elseWord ++ (second ++ closing .endIfWord))), by simp, rfl,
        fun later => ?_⟩, ⟨filled, wellFormed⟩, filledRefused, wellFormedRefused⟩
      simpa using Spells.choice spells spellsRefused later
    · simp only [bind_eq_ok_iff, expectCloser_eq_ok_iff, pure_eq_ok_iff, Prod.mk.injEq] at accepted
      obtain ⟨_, rfl, rfl, rfl⟩ := accepted
      refine ⟨⟨.keyword .ifWord :: .path condition :: .exprEnd ::
        (inside ++ closing .endIfWord), by simp, rfl, fun later => ?_⟩, filled, wellFormed⟩
      simpa using Spells.whenTrue spells later
  · -- A loop has been refused if a loop around it uses its index.
    rename_i rest
    simp only [bind_eq_ok_iff, Prod.exists, expectIndex_eq_ok_iff, expectToken_eq_ok_iff,
      expectPathEnd_eq_ok_iff, expectCloser_eq_ok_iff, pure_eq_ok_iff, Prod.mk.injEq] at accepted
    obtain ⟨index, _, ⟨rfl, fresh⟩, _, rfl, source, _, rfl, body, _, read, _, rfl, rfl, rfl⟩ :=
      accepted
    obtain ⟨inside, rfl, spells, filled, wellFormed⟩ := readsBody itemsSound read
    refine ⟨⟨.keyword .forWord :: .index index :: .keyword .inWord :: .path source ::
      .exprEnd :: (inside ++ closing .endForWord), by simp, rfl, fun later => ?_⟩, fresh,
      filled, wellFormed⟩
    simpa using Spells.loop spells later
  -- An empty expression, another token and the end of the tokens are refused.
  · cases accepted
  · cases accepted
  · cases accepted

/-- Reading returns what the tokens it takes spell. -/
theorem read_sound (steps : Nat) : ItemsSound steps ∧ ExpressionSound steps := by
  -- Each function calls itself and the other only with fewer steps.
  induction steps with
  | zero =>
    -- Without steps nothing is accepted.
    constructor
    · intro closers enclosing tokens items after accepted
      cases accepted
    · intro enclosing tokens item after accepted
      cases accepted
  | succ steps ih =>
    obtain ⟨itemsSound, expressionSound⟩ := ih
    exact ⟨readItems_sound itemsSound expressionSound, readExpression_sound itemsSound⟩

end PayloadTemplate.Template
