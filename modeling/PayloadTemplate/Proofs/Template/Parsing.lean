import PayloadTemplate.Proofs.Template.Soundness

/-!
The parser accepts exactly the spellings of well-formed items and returns these items.  What is left
to show is that it reads every spelling back.
-/

namespace PayloadTemplate.Template

/-- Where the items end, no character stands. -/
theorem Stops.no_character {closers : List Keyword} {after : List Token}
    (stops : Stops closers after) : startsWithCharacter after = false := by
  -- What follows the items is an opening brace or nothing.
  rcases stops with rfl | ⟨word, _, rest, rfl⟩
  · rfl
  · rfl

@[simp] theorem expectPathEnd_spelling (path : String) (rest : List Token) :
    expectPathEnd (.path path :: .exprEnd :: rest) = .ok (path, rest) :=
  expectPathEnd_eq_ok_iff.mpr rfl

@[simp] theorem expectCloser_closing (word : Keyword) (rest : List Token) :
    expectCloser word (closing word ++ rest) = .ok rest :=
  expectCloser_eq_ok_iff.mpr rfl

@[simp] theorem closing_getElem?_one (word : Keyword) (rest : List Token) :
    (closing word ++ rest)[1]? = some (.keyword word) := rfl

/-- Given a step for each token and one more, reading returns well-formed items for these tokens,
in front of anything that may end a body. -/
structure ReadsBack (items : List Item) (spelled : List Token) : Prop where
  /-- What reading returns. -/
  read : ∀ {steps : Nat} {closers : List Keyword} {enclosing : List Char} {after : List Token},
    (∀ word ∈ closers, word.closesBlock = true) → Stops closers after →
      WellFormedItems enclosing items → (spelled ++ after).length < steps →
        readItems steps closers enclosing (spelled ++ after) = .ok (items, after)

/-- Given as many steps, reading an expression returns a well-formed item for the tokens behind its
opening, none of which closes or divides a block. -/
structure ReadsExpressionBack (item : Item) (spelled : List Token) : Prop where
  /-- The first word opens a block, if it is one. -/
  opens : ∀ {after word others}, spelled ++ after = .keyword word :: others →
    word.closesBlock = false
  /-- What reading returns. -/
  read : ∀ {steps : Nat} {enclosing : List Char} {after : List Token},
    item.WellFormed enclosing → (spelled ++ after).length < steps →
      readExpression steps enclosing (spelled ++ after) = .ok (item, after)

section ReadingBack

variable {body rest : List Item} {inside tokens : List Token}

/-- At the end of the items, nothing is read. -/
theorem ReadsBack.nil : ReadsBack [] [] := by
  constructor
  intro steps closers enclosing after _ stops _ enough
  obtain ⟨steps, rfl⟩ := Nat.exists_eq_add_one.mpr (Nat.zero_lt_of_lt enough)
  -- Either the tokens end here or a closer stands here.
  rcases stops with rfl | ⟨word, closer, rest, rfl⟩
  · rfl
  · exact readItems_closer steps closers enclosing closer _

/-- A text is put together again from its characters. -/
theorem ReadsBack.text {content : String} (later : Spells rest tokens)
    (reads : ReadsBack rest tokens) :
    ReadsBack (.text content :: rest) (content.toList.map .text ++ tokens) := by
  constructor
  intro steps closers enclosing after close stops wellFormed enough
  obtain ⟨filled, separate, wellFormed⟩ := wellFormed
  -- A text is not empty, so its first character is there to be read.
  obtain ⟨character, run, spelling⟩ : ∃ character run, content.toList = character :: run :=
    List.exists_cons_of_ne_nil (by simpa [Item.WellFormed] using filled)
  rw [spelling] at enough ⊢
  simp only [List.map_cons, List.cons_append, List.append_assoc, List.length_cons,
    List.length_append, List.length_map] at enough ⊢
  obtain ⟨steps, rfl⟩ := Nat.exists_eq_add_one.mpr (Nat.zero_lt_of_lt enough)
  -- The run takes all characters of the text because no text follows it.
  have stopped := later.no_character (separate rfl) stops.no_character
  have read : readItems steps closers enclosing (tokens ++ after) = .ok (rest, after) :=
    reads.read close stops wellFormed (by rw [List.length_append]; omega)
  rw [readItems_text, textRun_map_append run stopped]
  simp [read, Bind.bind, Except.bind, Pure.pure, Except.pure, ← spelling]

/-- An escape takes one token. -/
theorem ReadsBack.escaped {raw : String} {sign character : Char}
    (pair : raw.toList = [sign, character]) (reads : ReadsBack rest tokens) :
    ReadsBack (.escaped character :: rest) (.escaped raw :: tokens) := by
  constructor
  intro steps closers enclosing after close stops wellFormed enough
  rw [List.cons_append, List.length_cons] at enough
  -- The token takes one of the steps.
  obtain ⟨steps, rfl⟩ := Nat.exists_eq_add_one.mpr (Nat.zero_lt_of_lt enough)
  have read : readItems steps closers enclosing (tokens ++ after) = .ok (rest, after) :=
    reads.read close stops wellFormed.2.2 (by omega)
  have decoded : escapedChar raw = .ok character := escapedChar_eq_ok_iff.mpr ⟨sign, pair⟩
  rw [List.cons_append, readItems_escaped]
  simp only [decoded, read, Bind.bind, Except.bind, Pure.pure, Except.pure]

/-- A path outside an expression takes one token. -/
theorem ReadsBack.shortcut {path : String} (reads : ReadsBack rest tokens) :
    ReadsBack (.reference path :: rest) (.shortcut path :: tokens) := by
  -- One step is for the shortcut, and the others are for what follows it.
  constructor
  intro steps closers enclosing after close stops wellFormed enough
  rw [List.cons_append, List.length_cons] at enough
  obtain ⟨steps, rfl⟩ := Nat.exists_eq_add_one.mpr (Nat.zero_lt_of_lt enough)
  have read : readItems steps closers enclosing (tokens ++ after) = .ok (rest, after) :=
    reads.read close stops wellFormed.2.2 (by omega)
  rw [List.cons_append, readItems_shortcut]
  simp only [read, Bind.bind, Except.bind, Pure.pure, Except.pure]

/-- An expression is read as an item, followed by further items. -/
theorem ReadsBack.expression {item : Item} {spelled : List Token}
    (first : ReadsExpressionBack item spelled) (reads : ReadsBack rest tokens) :
    ReadsBack (item :: rest) (.exprStart :: (spelled ++ tokens)) := by
  constructor
  intro steps closers enclosing after close stops wellFormed enough
  simp only [List.cons_append, List.append_assoc, List.length_cons, List.length_append]
    at enough ⊢
  -- The opening takes one of the steps.
  obtain ⟨steps, rfl⟩ := Nat.exists_eq_add_one.mpr (Nat.zero_lt_of_lt enough)
  have expression : readExpression steps enclosing (spelled ++ (tokens ++ after)) =
      .ok (item, tokens ++ after) :=
    first.read wellFormed.1 (by simp only [List.length_append]; omega)
  have read : readItems steps closers enclosing (tokens ++ after) = .ok (rest, after) :=
    reads.read close stops wellFormed.2.2 (by rw [List.length_append]; omega)
  -- A word that opens a block is none of the closers.
  have foreign : ∀ word others, spelled ++ (tokens ++ after) = .keyword word :: others →
      word ∉ closers ∧ word.closesBlock = false := by
    intro word others same
    have opening := first.opens same
    refine ⟨fun closer => ?_, opening⟩
    rw [close word closer] at opening
    cases opening
  rw [readItems_opening steps closers enclosing foreign]
  simp only [expression, read, Bind.bind, Except.bind, Pure.pure, Except.pure]

/-- A body that is not empty is accepted before its closer. -/
theorem completeBody_closing {closers : List Keyword} {word : Keyword} {after : List Token}
    (filled : body ≠ []) :
    completeBody closers (body, closing word ++ after) = .ok (body, closing word ++ after) :=
  completeBody_eq_ok_iff.mpr ⟨rfl, filled, by simp [closing]⟩

/-- A closing expression stops the reading of a body that it closes. -/
theorem stops_closing {closers : List Keyword} {word : Keyword} (closer : word ∈ closers)
    (after : List Token) : Stops closers (closing word ++ after) :=
  .inr ⟨word, closer, .exprEnd :: after, rfl⟩

/-- A path that is an expression of its own is read. -/
theorem readsBack_braced (path : String) :
    ReadsExpressionBack (.reference path) [.path path, .exprEnd] := by
  constructor
  · -- A path is no word that could close a block.
    intro after word others same
    cases same
  · intro steps enclosing after _ enough
    obtain ⟨steps, rfl⟩ := Nat.exists_eq_add_one.mpr (Nat.zero_lt_of_lt enough)
    simp [readExpression, expectToken, Bind.bind, Except.bind, Pure.pure, Except.pure]

/-- A conditional block is read when its body is. -/
theorem readsBack_whenTrue (condition : String) (reads : ReadsBack body inside) :
    ReadsExpressionBack (.whenTrue condition body)
      (.keyword .ifWord :: .path condition :: .exprEnd :: (inside ++ closing .endIfWord)) := by
  constructor
  · -- The word opens a block.
    intro after word others same
    cases same
    rfl
  · intro steps enclosing after wellFormed enough
    obtain ⟨filled, wellFormed⟩ := wellFormed
    simp only [List.cons_append, List.append_assoc, List.length_cons] at enough ⊢
    obtain ⟨steps, rfl⟩ := Nat.exists_eq_add_one.mpr (Nat.zero_lt_of_lt enough)
    -- The body ends in front of the braces that close it.
    have read : readItems steps [.elseWord, .endIfWord] enclosing
        (inside ++ (closing .endIfWord ++ after)) = .ok (body, closing .endIfWord ++ after) :=
      reads.read (by decide) (stops_closing (by decide) _) wellFormed (by omega)
    -- The word behind the body is not the one that divides a block.
    simp [readExpression, read, completeBody_closing filled, Bind.bind, Except.bind, Pure.pure,
      Except.pure]

/-- A negated conditional block is read when its body is. -/
theorem readsBack_whenFalse (condition : String) (reads : ReadsBack body inside) :
    ReadsExpressionBack (.whenFalse condition body)
      (.keyword .ifWord :: .keyword .notWord :: .path condition :: .exprEnd ::
        (inside ++ closing .endIfWord)) := by
  constructor
  · intro after word others same
    cases same
    rfl
  · intro steps enclosing after wellFormed enough
    obtain ⟨filled, wellFormed⟩ := wellFormed
    simp only [List.cons_append, List.append_assoc, List.length_cons] at enough ⊢
    obtain ⟨steps, rfl⟩ := Nat.exists_eq_add_one.mpr (Nat.zero_lt_of_lt enough)
    have read : readItems steps [.endIfWord] enclosing (inside ++ (closing .endIfWord ++ after)) =
        .ok (body, closing .endIfWord ++ after) :=
      reads.read (by decide) (stops_closing (by decide) _) wellFormed (by omega)
    -- The negation is taken before the condition.
    simp [readExpression, read, completeBody_closing filled, Bind.bind, Except.bind, Pure.pure,
      Except.pure]

/-- A divided conditional block is read when both of its bodies are. -/
theorem readsBack_choice (condition : String) {refused : List Item} {second : List Token}
    (reads : ReadsBack body inside) (readsRefused : ReadsBack refused second) :
    ReadsExpressionBack (.choice condition body refused)
      (.keyword .ifWord :: .path condition :: .exprEnd ::
        (inside ++ (closing .elseWord ++ (second ++ closing .endIfWord)))) := by
  constructor
  · intro after word others same
    cases same
    rfl
  · intro steps enclosing after wellFormed enough
    obtain ⟨⟨filled, wellFormed⟩, filledRefused, wellFormedRefused⟩ := wellFormed
    simp only [List.cons_append, List.append_assoc, List.length_cons] at enough ⊢
    obtain ⟨steps, rfl⟩ := Nat.exists_eq_add_one.mpr (Nat.zero_lt_of_lt enough)
    have read : readItems steps [.elseWord, .endIfWord] enclosing
        (inside ++ (closing .elseWord ++ (second ++ (closing .endIfWord ++ after)))) =
          .ok (body, closing .elseWord ++ (second ++ (closing .endIfWord ++ after))) :=
      reads.read (by decide) (stops_closing (by decide) _) wellFormed (by omega)
    -- The second body ends where the whole block does.
    have readRefused : readItems steps [.endIfWord] enclosing
        (second ++ (closing .endIfWord ++ after)) = .ok (refused, closing .endIfWord ++ after) :=
      readsRefused.read (by decide) (stops_closing (by decide) _) wellFormedRefused
        (by simp only [List.length_append] at enough ⊢; omega)
    -- The word behind the first body divides the block.
    simp [readExpression, read, readRefused, completeBody_closing filled,
      completeBody_closing filledRefused, Bind.bind, Except.bind, Pure.pure, Except.pure]

/-- A loop is read when its body is, under an index that no loop around it uses. -/
theorem readsBack_loop (index : Char) (source : String) (reads : ReadsBack body inside) :
    ReadsExpressionBack (.loop index source body)
      (.keyword .forWord :: .index index :: .keyword .inWord :: .path source :: .exprEnd ::
        (inside ++ closing .endForWord)) := by
  constructor
  · intro after word others same
    cases same
    rfl
  · intro steps enclosing after wellFormed enough
    obtain ⟨fresh, filled, wellFormed⟩ := wellFormed
    simp only [List.cons_append, List.append_assoc, List.length_cons] at enough ⊢
    obtain ⟨steps, rfl⟩ := Nat.exists_eq_add_one.mpr (Nat.zero_lt_of_lt enough)
    -- Within the body the index of the loop is taken too.
    have read : readItems steps [.endForWord] (index :: enclosing)
        (inside ++ (closing .endForWord ++ after)) = .ok (body, closing .endForWord ++ after) :=
      reads.read (by decide) (stops_closing (by decide) _) wellFormed (by omega)
    -- The index is looked up before anything else is read.
    simp [readExpression, expectIndex, expectToken, fresh, read, completeBody_closing filled,
      Bind.bind, Except.bind, Pure.pure, Except.pure]

/-- Reading the spelling of well-formed items returns these items and stops behind them. -/
theorem Spells.readsBack {items : List Item} {spelled : List Token}
    (spells : Spells items spelled) : ReadsBack items spelled := by
  -- Every block is an expression with its bodies, which are read back before it.
  induction spells with
  | nil => exact .nil
  | text later ih => exact .text later ih
  | escaped pair _ ih => exact .escaped pair ih
  | shortcut _ ih => exact .shortcut ih
  | braced _ ih => exact .expression (readsBack_braced _) ih
  | whenTrue _ _ ihBody ih =>
    simpa using ReadsBack.expression (readsBack_whenTrue _ ihBody) ih
  | whenFalse _ _ ihBody ih =>
    simpa using ReadsBack.expression (readsBack_whenFalse _ ihBody) ih
  | choice _ _ _ ihAccepted ihRefused ih =>
    simpa using ReadsBack.expression (readsBack_choice _ ihAccepted ihRefused) ih
  | loop _ _ ihBody ih =>
    simpa using ReadsBack.expression (readsBack_loop _ _ ihBody) ih

end ReadingBack

/-- Nothing but the end of the tokens stops the reading of a whole template. -/
theorem parse_eq_ok_iff_read {tokens : List Token} {items : List Item} :
    parse tokens = .ok items ↔ readItems (tokens.length + 1) [] [] tokens = .ok (items, []) ∧
      items ≠ [] := by
  -- A template has no closers, so completing it only asks for an item.
  simp only [parse, bind_eq_ok_iff, Prod.exists, completeBody_eq_ok_iff, Prod.mk.injEq,
    pure_eq_ok_iff, implies_true, and_true]
  constructor
  · intro parsed
    obtain ⟨_, _, ⟨found, after, read, ⟨rfl, rfl⟩, filled⟩, rfl⟩ := parsed
    rcases ((read_sound _).1 read).stops with rfl | ⟨word, closer, _⟩
    · exact ⟨read, filled⟩
    · cases closer
  · intro reads
    obtain ⟨read, filled⟩ := reads
    exact ⟨items, [], ⟨items, [], read, ⟨rfl, rfl⟩, filled⟩, rfl⟩

/-- Tokens are parsed to the items that they spell. -/
theorem parse_eq_ok_iff {tokens : List Token} {items : List Item} :
    parse tokens = .ok items ↔ WellFormed items ∧ Spells items tokens := by
  rw [parse_eq_ok_iff_read]
  constructor
  · -- What was read has been taken from the tokens, and nothing is left of them.
    intro reads
    obtain ⟨read, filled⟩ := reads
    have reads := (read_sound _).1 read
    obtain ⟨spelled, split, spells⟩ := reads.taken
    rw [List.append_nil] at split
    exact ⟨⟨filled, reads.wellFormed⟩, split ▸ spells⟩
  · intro spelled
    obtain ⟨⟨filled, wellFormed⟩, spells⟩ := spelled
    -- One step for every token and one more is enough.
    have read : readItems (tokens.length + 1) [] [] (tokens ++ []) = .ok (items, []) :=
      spells.readsBack.read (by simp) (.inl rfl) wellFormed (by simp)
    rw [List.append_nil] at read
    exact ⟨read, filled⟩

/-- The parser accepts exactly the spellings of well-formed templates and returns the template
that is spelled.  It reports a fault for all other tokens. -/
theorem parse_accepts_exactly_spellings (tokens : List Token) :
    (∀ items, parse tokens = .ok items ↔ WellFormed items ∧ Spells items tokens) ∧
      ((∃ fault, (build tokens).outcome = .error (.parse fault)) ↔
        ¬∃ items, WellFormed items ∧ Spells items tokens) := by
  refine ⟨fun items => parse_eq_ok_iff, ?_⟩
  -- Whatever is not parsed is reported as a fault of the parser.
  simp only [← parse_eq_ok_iff, build, Rendering.outcome_bind, Rendering.outcome_ofExcept]
  cases parse tokens with
  | error fault => simp [Bind.bind, Except.bind]
  | ok items => simp [Bind.bind, Except.bind]

end PayloadTemplate.Template
