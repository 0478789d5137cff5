import PayloadTemplate.Proofs.Template.Printer
import PayloadTemplate.Proofs.Template.Scanning

/-!
Literal text and expressions take turns.  A scanner is never inside more than one expression, so its
tokens are those of literal text and closed groups of words, and the parser finds no token where
one of the other kind belongs.
-/

namespace PayloadTemplate.Template

/-! ## Tokens in turns -/

/-- Whether a token stands for literal text: a character, an escape or a shortcut path. -/
def Token.isLiteral : Token → Bool
  | .text _ | .escaped _ | .shortcut _ => true
  | _ => false

/-- Literal text and expressions one after the other.  Only the last expression may lack its closing
brace, and no expression stands inside another. -/
inductive Grouped : List Token → Prop where
  /-- No tokens are left. -/
  | nil : Grouped []
  /-- A token outside expressions. -/
  | outside {token : Token} {rest : List Token} (literal : token.isLiteral = true)
      (later : Grouped rest) : Grouped (token :: rest)
  /-- An expression from its opening to its closing brace. -/
  | group {words rest : List Token} (inside : ∀ word ∈ words, word.isWord = true)
      (later : Grouped rest) : Grouped (.exprStart :: (words ++ .exprEnd :: rest))
  /-- An expression that is not closed. -/
  | unclosed {words : List Token} (inside : ∀ word ∈ words, word.isWord = true) :
      Grouped (.exprStart :: words)

/-- Whether the rules of a mode can find a token.  Nothing but a dollar sign is escaped. -/
def Mode.Finds : Mode → Token → Prop
  | .literal, .escaped raw => raw = "\\$"
  | .literal, token => token.isLiteral = true ∨ token = .exprStart
  | .expression, token => token.isWord = true ∨ token = .exprEnd

/-- Tokens that the rules can find one after the other, each under the mode that those before it
lead to. -/
def InTurns : Mode → List Token → Prop
  | _, [] => True
  | mode, token :: rest => mode.Finds token ∧ InTurns (mode.after token) rest

/-- The later tokens are found under the mode that the earlier ones lead to. -/
theorem inTurns_append_iff {first second : List Token} {mode : Mode} :
    InTurns mode (first ++ second) ↔
      InTurns mode first ∧ InTurns (first.foldl Mode.after mode) second := by
  -- The second part begins in the mode to which the first one has led.
  induction first generalizing mode with
  | nil => simp [InTurns]
  | cons token rest ih => simp only [List.cons_append, InTurns, ih, List.foldl_cons, and_assoc]

/-- What stands in an expression: words up to its closing brace, or up to the end. -/
def Enclosed (tokens : List Token) : Prop :=
  ∃ words, (∀ word ∈ words, word.isWord = true) ∧
    (tokens = words ∨ ∃ rest, tokens = words ++ .exprEnd :: rest ∧ Grouped rest)

/-- An expression goes on with one more word. -/
theorem Enclosed.cons {token : Token} {rest : List Token} (word : token.isWord = true)
    (enclosed : Enclosed rest) : Enclosed (token :: rest) := by
  -- The group is the same one, with a word more.
  obtain ⟨words, inside, unclosed | ⟨later, closed, grouped⟩⟩ := enclosed
  · exact ⟨token :: words, List.forall_mem_cons.mpr ⟨word, inside⟩, .inl (by rw [unclosed])⟩
  · refine ⟨token :: words, List.forall_mem_cons.mpr ⟨word, inside⟩, .inr ⟨later, ?_, grouped⟩⟩
    rw [closed, List.cons_append]

/-- An opening brace and what stands in its expression are a group. -/
theorem Enclosed.grouped {tokens : List Token} (enclosed : Enclosed tokens) :
    Grouped (.exprStart :: tokens) := by
  -- The braces are left open, or closed with other groups behind them.
  obtain ⟨words, inside, rfl | ⟨rest, rfl, later⟩⟩ := enclosed
  · exact .unclosed inside
  · exact .group inside later

/-- Tokens that are found in turns are literal text and expressions one after the other. -/
theorem InTurns.grouped {tokens : List Token} :
    (InTurns .literal tokens → Grouped tokens) ∧
      (InTurns .expression tokens → Enclosed tokens) := by
  -- Both modes are looked at together, as each of them leads to the other.
  induction tokens with
  | nil => exact ⟨fun _ => .nil, fun _ => ⟨[], nofun, .inl rfl⟩⟩
  | cons token rest ih =>
    obtain ⟨outside, inside⟩ := ih
    constructor
    · rintro ⟨found, later⟩
      cases token with
      | exprStart => exact (inside later).grouped
      | text _ | escaped _ | shortcut _ => exact .outside rfl (outside later)
      | _ => simp [Mode.Finds, Token.isLiteral] at found
    · -- A closing brace ends the group, and a word is one more inside of it.
      rintro ⟨found, later⟩
      cases token with
      | exprEnd => exact ⟨[], nofun, .inr ⟨rest, rfl, outside later⟩⟩
      | path _ | keyword _ | index _ => exact (inside later).cons rfl
      | _ => simp [Mode.Finds, Token.isWord] at found

/-! ## What scanning finds -/

/-- A step in literal text finds one of its tokens. -/
theorem literalStep_finds {text rest : List Char} {token : Token}
    (found : literalStep text = .token token rest) : Mode.literal.Finds token := by
  -- Only the escape sign in front of a dollar sign escapes.
  unfold literalStep at found
  repeat' split at found
  all_goals cases found
  all_goals simp [Mode.Finds, Token.isLiteral]

/-- A step in an expression finds a word or the closing brace. -/
theorem wordStep_finds {previous : Option Char} {text rest : List Char} {token : Token}
    (found : wordStep previous text = .token token rest) : Mode.expression.Finds token := by
  -- Every token that such a step gives is a word or the closing brace.
  unfold wordStep at found
  repeat' split at found
  all_goals cases found
  all_goals simp [Mode.Finds, Token.isWord]

/-- A step finds a token of its mode. -/
theorem step_finds {mode : Mode} {previous : Option Char} {text rest : List Char} {token : Token}
    (found : step mode previous text = .token token rest) : mode.Finds token := by
  -- In an expression the blanks are skipped before the token is looked for.
  cases mode with
  | literal => exact literalStep_finds found
  | expression =>
    rw [step, expressionStep_eq] at found
    exact wordStep_finds found

/-- A scan finds its tokens in turns, also when it is stuck behind them. -/
theorem scanFrom_inTurns (mode : Mode) (previous : Option Char) (text : List Char) :
    InTurns mode (scanFrom mode previous text).tokens := by
  -- Each step leads to the mode of the next one.
  fun_induction scanFrom mode previous text with
  | case1 => trivial
  | case2 => trivial
  | case3 mode previous text token rest found later ih => exact ⟨step_finds found, ih⟩

/-- The tokens of a text are found in turns. -/
theorem Scans.inTurns {mode : Mode} {previous : Option Char} {text : List Char}
    {tokens : List Token} (scans : Scans mode previous text tokens) : InTurns mode tokens := by
  have turns := scanFrom_inTurns mode previous text
  rwa [show scanFrom mode previous text = ⟨tokens, none⟩ from scans] at turns

/-! ## The modes of a scanner -/

/-- The tokens among the answers of a scanner. -/
def yielded (answers : List Scanner.Answer) : List Token :=
  answers.filterMap fun
    | some (.ok token) => some token
    | _ => none

/-- The answers to the first requests yield the first tokens of a scan, one for each request. -/
theorem yielded_answersFrom (source : String) (result : Scan) (count : Nat) :
    yielded (answersFrom (result.found source) count) = result.tokens.take count := by
  -- An illegal character is an answer, too, but it yields no token.
  have general : ∀ (tokens : List Token) (faults : List IllegalCharacter),
      yielded (answersFrom (tokens.map .ok ++ faults.map .error) count) = tokens.take count := by
    induction count with
    | zero => exact fun _ _ => rfl
    | succ count ih =>
      intro tokens faults
      cases tokens with
      | cons token rest =>
        rw [List.map_cons, List.cons_append, answersFrom_cons, List.take_succ_cons,
          ← ih rest faults]
        rfl
      | nil =>
        -- Without tokens there is at most a fault, and behind it there is nothing.
        cases faults with
        | nil =>
          exact (congrArg yielded (answersFrom_nil count)).trans ((ih [] []).trans List.take_nil)
        | cons fault others =>
          rw [List.map_nil, List.nil_append, List.map_cons, answersFrom_cons]
          exact (ih [] others).trans List.take_nil
  exact general result.tokens (result.fault? source).toList

/-- A token that is found enters an expression from literal text or leaves it again. -/
theorem Mode.Finds.modesAfter {mode : Mode} {token : Token} (finds : mode.Finds token) :
    modesAfter mode.entered token = (mode.after token).entered := by
  cases mode with
  | literal =>
    -- The brace that ends an expression is not found outside of one.
    cases token with
    | exprEnd => simp [Mode.Finds, Token.isLiteral] at finds
    | _ => rfl
  | expression =>
    -- Nor is an expression opened inside another.
    cases token with
    | exprStart => simp [Mode.Finds, Token.isWord] at finds
    | _ => rfl

namespace Scanner

variable {scanner later last : Scanner} {mode : Mode} {answer : Answer}

/-- A scanner has been in turns when it has yielded tokens in turns from a mode on and has entered
the mode that they lead to. -/
def Turned (mode : Mode) (answers : List Answer) (last : Scanner) : Prop :=
  InTurns mode (yielded answers) ∧
    last.modes = ((yielded answers).foldl Mode.after mode).entered

/-- The answer to what has been found enters or leaves an expression as its token does. -/
theorem answerTo_turned {found : Step} (modes : scanner.modes = mode.entered)
    (finds : ∀ token rest, found = .token token rest → mode.Finds token)
    (answered : scanner.answerTo found = (answer, later)) : Turned mode [answer] later := by
  cases found with
  | token token rest =>
    have finds := finds token rest rfl
    cases answered
    refine ⟨⟨finds, trivial⟩, ?_⟩
    show modesAfter scanner.modes token = (mode.after token).entered
    -- A token changes the modes as the scan says.
    rw [modes, finds.modesAfter]
  | illegal rest =>
    -- A failure leaves the modes as they are.
    cases rest <;> cases answered <;> exact ⟨trivial, modes⟩
  | finished =>
    cases answered
    exact ⟨trivial, modes⟩

/-- An answer leaves the scanner in turns. -/
theorem next?_turned (modes : scanner.modes = mode.entered)
    (next : scanner.next? = some (answer, later)) : Turned mode [answer] later := by
  have current : scanner.mode = mode := by
    rw [Scanner.mode, modes]
    cases mode <;> rfl
  rw [Scanner.next?, current] at next
  split at next
  · -- There is no answer any more.
    cases next
    exact ⟨trivial, modes⟩
  · cases mode with
    | literal =>
      obtain ⟨rest, _, answered⟩ := Option.bind_eq_some_iff.mp next
      exact answerTo_turned modes (fun _ _ found => literalStep_finds found)
        (Option.some.inj answered)
    | expression =>
      obtain ⟨spaced, _, next⟩ := Option.bind_eq_some_iff.mp next
      obtain ⟨rest, _, next⟩ := Option.bind_eq_some_iff.mp next
      obtain ⟨before, _, answered⟩ := Option.bind_eq_some_iff.mp next
      -- Skipping the spaces leaves the modes as they are.
      have skipped : (scanner.skip (spaced.takeWhile (· == ' '))).modes = Mode.expression.entered :=
        modes
      exact answerTo_turned skipped (fun _ _ found => wordStep_finds found)
        (Option.some.inj answered)

/-- However often it is asked, a scanner stays in turns. -/
theorem answers?_turned {count : Nat} {answers : List Answer} (modes : scanner.modes = mode.entered)
    (asked : scanner.answers? count = some (answers, last)) : Turned mode answers last := by
  -- The first answer leads to the mode that the others start from.
  induction count generalizing scanner mode answers with
  | zero =>
    cases asked
    exact ⟨trivial, modes⟩
  | succ count ih =>
    obtain ⟨⟨answer, later⟩, next, asked⟩ := Option.bind_eq_some_iff.mp asked
    obtain ⟨⟨others, final⟩, asked, same⟩ := Option.bind_eq_some_iff.mp asked
    cases same
    have first := next?_turned modes next
    have rest := ih first.2 asked
    -- What the first answer yields comes before all that the others yield.
    have split : yielded (answer :: others) = yielded [answer] ++ yielded others := by
      rw [yielded, yielded, yielded, ← List.filterMap_append, List.singleton_append]
    rw [Turned, split, inTurns_append_iff, List.foldl_append]
    exact ⟨⟨first.1, rest.1⟩, rest.2⟩

end Scanner

/-! ## What the parser finds -/

/-- A fault of tokens in turns.  No token stands outside an expression that belongs inside, what is
found in place of something else in an expression is a word or the closing brace, and escapes are
well formed. -/
def ParseError.InTurn : ParseError → Prop
  | .outsideExpression _ => False
  | .malformedEscape _ => False
  | .expected _ found => ∀ token ∈ found, Mode.expression.Finds token
  | .unexpectedInExpression token => Mode.expression.Finds token
  | _ => True

section Expressions

variable {tokens rest : List Token} {fault : ParseError}

theorem expectToken_inTurn {expected : Token} (turns : InTurns .expression tokens)
    (failed : expectToken expected tokens = .error fault) : fault.InTurn := by
  -- The token that was found instead is one that an expression can have.
  cases tokens with
  | nil =>
    cases failed
    exact nofun
  | cons token others =>
    rw [expectToken] at failed
    split at failed
    · cases failed
    · cases failed
      rintro _ ⟨⟩
      exact turns.1

theorem expectPath_inTurn (turns : InTurns .expression tokens)
    (failed : expectPath tokens = .error fault) : fault.InTurn := by
  -- Instead of a path another token of an expression is found, or nothing.
  unfold expectPath at failed
  split at failed
  · cases failed
  · cases failed
    rintro _ ⟨⟩
    exact turns.1
  · cases failed
    exact nofun

theorem expectIndex_inTurn {enclosing : List Char} (turns : InTurns .expression tokens)
    (failed : expectIndex enclosing tokens = .error fault) : fault.InTurn := by
  -- An index name may be taken already, which says nothing of a token.
  unfold expectIndex at failed
  split at failed
  · split at failed
    · cases failed
      trivial
    · cases failed
  · cases failed
    rintro _ ⟨⟩
    exact turns.1
  · cases failed
    exact nofun

theorem expectPathEnd_inTurn (turns : InTurns .expression tokens)
    (failed : expectPathEnd tokens = .error fault) : fault.InTurn := by
  -- Either the path is missing, or it is one word and what follows is no brace.
  rcases bind_eq_error_iff.mp failed with noPath | ⟨⟨path, behind⟩, taken, later⟩
  · exact expectPath_inTurn turns noPath
  · rw [expectPath_eq_ok_iff.mp taken] at turns
    rcases bind_eq_error_iff.mp later with noEnd | ⟨_, _, returned⟩
    · exact expectToken_inTurn turns.2 noEnd
    · cases returned

/-- A block is closed by an expression, which is there if one has been opened. -/
theorem expectCloser_inTurn {word : Keyword} (turns : InTurns .expression tokens)
    (failed : expectCloser word (.exprStart :: tokens) = .error fault) : fault.InTurn := by
  -- The opening is there, so only the word or the closing brace can be missing.
  rcases bind_eq_error_iff.mp failed with noStart | ⟨inside, opened, later⟩
  · rw [expectToken, if_pos rfl] at noStart
    cases noStart
  · obtain ⟨_, rfl⟩ := List.cons.inj (expectToken_eq_ok_iff.mp opened)
    rcases bind_eq_error_iff.mp later with noWord | ⟨behind, taken, noEnd⟩
    · exact expectToken_inTurn turns noWord
    · rw [expectToken_eq_ok_iff.mp taken] at turns
      exact expectToken_inTurn turns.2 noEnd

end Expressions

/-- The faults of reading items in some number of steps are those of tokens in turns. -/
def ItemsInTurn (steps : Nat) : Prop :=
  ∀ {closers enclosing tokens fault}, InTurns .literal tokens →
    readItems steps closers enclosing tokens = .error fault → fault.InTurn

/-- The faults of reading an expression in some number of steps are those of tokens in turns. -/
def ExpressionInTurn (steps : Nat) : Prop :=
  ∀ {enclosing tokens fault}, InTurns .expression tokens →
    readExpression steps enclosing tokens = .error fault → fault.InTurn

section Steps

variable {steps : Nat} {closers : List Keyword} {enclosing : List Char} {tokens after : List Token}
  {body : List Item} {fault : ParseError}

/-- What follows items stands outside expressions again. -/
theorem readItems_leaves (turns : InTurns .literal tokens)
    (read : readItems steps closers enclosing tokens = .ok (body, after)) :
    InTurns .literal after := by
  -- The items that were read are whole, so they lead back to literal text.
  obtain ⟨spelled, rfl, spells⟩ := ((read_sound steps).1 read).taken
  have later := (inTurns_append_iff.mp turns).2
  rwa [spells.mode_after] at later

/-- What follows an expression stands outside expressions again. -/
theorem readExpression_leaves {item : Item} (turns : InTurns .expression tokens)
    (read : readExpression steps enclosing tokens = .ok (item, after)) :
    InTurns .literal after := by
  obtain ⟨spelled, rfl, _, spells⟩ := ((read_sound steps).2 read).taken
  -- With its opening, the expression is the spelling of its item alone.
  have closed : spelled.foldl Mode.after .expression = .literal := by
    simpa [Mode.after] using (spells .nil).mode_after
  have later := (inTurns_append_iff.mp turns).2
  rwa [closed] at later

/-- A body is followed by an expression. -/
theorem body_leaves (several : closers ≠ []) (turns : InTurns .literal tokens)
    (read : (readItems steps closers enclosing tokens >>= completeBody closers) =
      .ok (body, after)) :
    ∃ inside, after = .exprStart :: inside ∧ InTurns .expression inside := by
  obtain ⟨⟨items, rest⟩, read, complete⟩ := bind_eq_ok_iff.mp read
  obtain ⟨same, _, closed⟩ := completeBody_eq_ok_iff.mp complete
  cases same
  have later := readItems_leaves turns read
  -- A body does not end with the tokens, so it stops in front of one of its closers.
  rcases ((read_sound steps).1 read).stops with ended | ⟨word, _, others, rfl⟩
  · exact absurd (closed ended) several
  · exact ⟨_, rfl, later.2⟩

/-- A body is at fault, or it is incomplete. -/
theorem body_inTurn (items : ItemsInTurn steps) (turns : InTurns .literal tokens)
    (failed : (readItems steps closers enclosing tokens >>= completeBody closers) =
      .error fault) : fault.InTurn := by
  -- A body fails at one of its items, or because its closing word is missing.
  rcases bind_eq_error_iff.mp failed with inside | ⟨_, _, incomplete⟩
  · exact items turns inside
  · unfold completeBody at incomplete
    split at incomplete
    · cases incomplete
      trivial
    · split at incomplete
      · cases incomplete
        trivial
      · cases incomplete

/-- One more step of reading items has no other faults. -/
theorem readItems_inTurn (items : ItemsInTurn steps) (expression : ExpressionInTurn steps) :
    ItemsInTurn (steps + 1) := by
  -- The first token decides, and in literal text it is one of four kinds.
  intro closers enclosing tokens fault turns failed
  cases tokens with
  | nil => cases failed
  | cons token rest =>
    obtain ⟨finds, later⟩ := turns
    cases token with
    | text character =>
      -- Behind the run of characters there is literal text as well.
      rw [readItems_text] at failed
      have behind : InTurns .literal (textRun rest).2 := by
        change InTurns .literal rest at later
        rw [(textRun_append rest).1] at later
        have turned := (inTurns_append_iff.mp later).2
        rwa [characters_mode_after] at turned
      rcases bind_eq_error_iff.mp failed with others | ⟨_, _, returned⟩
      · exact items behind others
      · cases returned
    | escaped raw =>
      rw [readItems_escaped] at failed
      rcases bind_eq_error_iff.mp failed with malformed | ⟨_, _, others⟩
      · -- The escape is that of a dollar sign.
        obtain rfl : raw = "\\$" := finds
        cases malformed
      · rcases bind_eq_error_iff.mp others with others | ⟨_, _, returned⟩
        · exact items later others
        · cases returned
    | shortcut path =>
      -- A shortcut cannot fail itself, only the items behind it.
      rw [readItems_shortcut] at failed
      rcases bind_eq_error_iff.mp failed with others | ⟨_, _, returned⟩
      · exact items later others
      · cases returned
    | exprStart =>
      by_cases opens : ∀ word others, rest = .keyword word :: others →
          word ∉ closers ∧ word.closesBlock = false
      · rw [readItems_opening steps closers enclosing opens] at failed
        rcases bind_eq_error_iff.mp failed with inside | ⟨⟨item, after⟩, read, others⟩
        · exact expression later inside
        · rcases bind_eq_error_iff.mp others with others | ⟨_, _, returned⟩
          · exact items (readExpression_leaves later read) others
          · cases returned
      · -- A word that closes this block ends the items, and one that closes another is refused.
        simp only [not_forall, not_and, Bool.not_eq_false] at opens
        obtain ⟨word, others, rfl, foreign⟩ := opens
        by_cases closer : word ∈ closers
        · rw [readItems_closer steps closers enclosing closer] at failed
          cases failed
        · rw [readItems_unexpected steps closers enclosing closer (foreign closer)] at failed
          cases failed
          trivial
    | _ => simp [Mode.Finds, Token.isLiteral] at finds

/-- A condition or source is at fault, or what follows its expression. -/
theorem pathEnd_inTurn {α : Type} {next : String × List Token → Except ParseError α}
    (turns : InTurns .expression tokens)
    (following : ∀ {path rest}, InTurns .literal rest → next (path, rest) = .error fault →
      fault.InTurn)
    (failed : expectPathEnd tokens >>= next = .error fault) : fault.InTurn := by
  -- Behind a path and its brace there is literal text again.
  rcases bind_eq_error_iff.mp failed with noPath | ⟨⟨path, rest⟩, taken, later⟩
  · exact expectPathEnd_inTurn turns noPath
  · rw [expectPathEnd_eq_ok_iff.mp taken] at turns
    exact following turns.2.2 later

/-- A body is at fault, or what follows it. -/
theorem body_then_inTurn {α : Type} {next : List Item × List Token → Except ParseError α}
    (items : ItemsInTurn steps) (several : closers ≠ []) (turns : InTurns .literal tokens)
    (following : ∀ {body inside}, InTurns .expression inside →
      next (body, .exprStart :: inside) = .error fault → fault.InTurn)
    (failed : readItems steps closers enclosing tokens >>= completeBody closers >>= next =
      .error fault) : fault.InTurn := by
  -- A body that was read leaves the expression with its closing word.
  rcases bind_eq_error_iff.mp failed with inside | ⟨⟨body, rest⟩, read, later⟩
  · exact body_inTurn items turns inside
  · obtain ⟨inside, behind, closing⟩ := body_leaves several turns read
    rw [behind] at later
    exact following closing later

/-- The end of a block is at fault if anything is. -/
theorem closed_inTurn {α : Type} {word : Keyword} {give : List Token → α}
    (turns : InTurns .expression tokens)
    (failed : (do
      let rest ← expectCloser word (.exprStart :: tokens)
      return give rest) = Except.error fault) : fault.InTurn := by
  -- What follows the closing word cannot fail any more.
  rcases bind_eq_error_iff.mp failed with noCloser | ⟨_, _, returned⟩
  · exact expectCloser_inTurn turns noCloser
  · cases returned

/-- One more step of reading an expression has no other faults. -/
theorem readExpression_inTurn (items : ItemsInTurn steps) : ExpressionInTurn (steps + 1) := by
  intro enclosing tokens fault turns failed
  unfold readExpression at failed
  split at failed
  · -- A path is followed by the closing brace.
    rcases bind_eq_error_iff.mp failed with noEnd | ⟨_, _, returned⟩
    · exact expectToken_inTurn turns.2 noEnd
    · cases returned
  · -- A negated condition has one body.
    refine pathEnd_inTurn turns.2.2 (fun turns failed => ?_) failed
    exact body_then_inTurn items (by decide) turns closed_inTurn failed
  · -- A condition has a second body if the first one is divided from it.
    refine pathEnd_inTurn turns.2 (fun turns failed => ?_) failed
    refine body_then_inTurn items (by decide) turns (fun closing failed => ?_) failed
    dsimp only at failed
    split at failed
    · rcases bind_eq_error_iff.mp failed with noCloser | ⟨rest, divided, failed⟩
      · exact expectCloser_inTurn closing noCloser
      · obtain ⟨_, rfl⟩ := List.cons.inj (expectCloser_eq_ok_iff.mp divided)
        exact body_then_inTurn items (by decide) closing.2.2 closed_inTurn failed
    · exact closed_inTurn closing failed
  · -- A loop has an index, a source and one body.
    rcases bind_eq_error_iff.mp failed with noIndex | ⟨⟨index, rest⟩, taken, failed⟩
    · exact expectIndex_inTurn turns.2 noIndex
    rw [(expectIndex_eq_ok_iff.mp taken).1] at turns
    rcases bind_eq_error_iff.mp failed with noWord | ⟨behind, taken, failed⟩
    · exact expectToken_inTurn turns.2.2 noWord
    rw [expectToken_eq_ok_iff.mp taken] at turns
    refine pathEnd_inTurn turns.2.2.2 (fun turns failed => ?_) failed
    exact body_then_inTurn items (by decide) turns closed_inTurn failed
  · -- Nothing stands between the braces.
    cases failed
    trivial
  · -- Another token begins the expression.
    cases failed
    exact turns.1
  · -- The tokens end at the opening brace.
    cases failed
    trivial

/-- Whatever the number of steps, the faults are those of tokens in turns. -/
theorem read_inTurn (steps : Nat) : ItemsInTurn steps ∧ ExpressionInTurn steps := by
  induction steps with
  | zero =>
    -- Without steps there is no item, whatever the tokens.
    constructor
    · intro closers enclosing tokens fault _ failed
      cases failed
      trivial
    · intro enclosing tokens fault _ failed
      cases failed
      trivial
  | succ steps ih => exact ⟨readItems_inTurn ih.1 ih.2, readExpression_inTurn ih.1⟩

end Steps

/-- The parser reports no other faults of tokens in turns. -/
theorem parse_inTurn {tokens : List Token} {fault : ParseError} (turns : InTurns .literal tokens)
    (failed : parse tokens = .error fault) : fault.InTurn := by
  -- A whole template is a body without closing words.
  rcases bind_eq_error_iff.mp failed with whole | ⟨_, _, returned⟩
  · exact body_inTurn (read_inTurn _).1 turns whole
  · cases returned

/-- The token that a fault has found where something else, or nothing, was asked for. -/
def ParseError.found? : ParseError → Option Token
  | .expected _ found => found
  | .outsideExpression token | .unexpectedInExpression token => some token
  | _ => none

/-- What a fault of tokens in turns has found belongs into an expression. -/
theorem ParseError.InTurn.found? {fault : ParseError} {token : Token} (inTurn : fault.InTurn)
    (found : fault.found? = some token) : token.isWord = true ∨ token = .exprEnd := by
  -- Only two kinds of errors name a token that they found.
  cases fault with
  | expected _ _ => exact inTurn token found
  | unexpectedInExpression _ =>
    cases found
    exact inTurn
  | outsideExpression _ => exact inTurn.elim
  | _ => cases found

/-- Literal text and expressions take turns.  However often it is asked, a scanner is in literal
text or in one expression there.  It has yielded as many tokens of the scan as it has been asked
for, or all of them, and these are literal tokens and expressions one after the other.  So the
parser never finds a token of expressions in literal text nor a literal one in an expression,
and no escape is malformed. -/
theorem literal_text_and_expressions_take_turns (source : String) :
    (∀ count, ∃ answers scanner,
        (Scanner.start source).answers? count = some (answers, scanner) ∧
          (scanner.modes = [.literal] ∨ scanner.modes = [.expression, .literal]) ∧
          yielded answers = (scan source).tokens.take count ∧ Grouped (yielded answers)) ∧
      Grouped (scan source).tokens ∧
      ∀ found, tokens source = .ok found → ∀ fault, parse found = .error fault →
        (∀ token, fault ≠ .outsideExpression token) ∧
          (∀ raw, fault ≠ .malformedEscape raw) ∧
          ∀ token, fault.found? = some token → token.isWord = true ∨ token = .exprEnd := by
  refine ⟨fun count => ?_, InTurns.grouped.1 (scanFrom_inTurns _ _ _), ?_⟩
  · obtain ⟨last, asked⟩ := (Scanner.start_stands source).answers? count
    have turned : Scanner.Turned .literal _ last := Scanner.answers?_turned rfl asked
    refine ⟨_, last, asked, ?_, yielded_answersFrom source _ count, InTurns.grouped.1 turned.1⟩
    -- The modes are those that have been entered where the tokens lead to.
    rw [turned.2]
    generalize List.foldl Mode.after .literal _ = mode
    cases mode with
    | literal => exact .inl rfl
    | expression => exact .inr rfl
  · intro found scanned fault failed
    -- What the lexer hands over takes turns, and so the parser meets no token out of place.
    have inTurn := parse_inTurn (tokens_eq_ok_iff.mp scanned).inTurns failed
    refine ⟨?_, ?_, fun token => inTurn.found?⟩
    · rintro token rfl
      exact inTurn
    · rintro raw rfl
      exact inTurn

/-- A brace in literal text, an escape, and an expression with a path too many.  After four requests
the scanner is in the expression, where it has found the first path. -/
theorem literal_text_and_expressions_take_turns_braces :
    (∃ answers scanner,
      (Scanner.start "\x7d\\$$\x7bdata.x key.y\x7d").answers? 4 = some (answers, scanner) ∧
        scanner.modes = [.expression, .literal] ∧
        yielded answers = [.text '\x7d', .escaped "\\$", .exprStart, .path "data.x"] ∧
        Grouped (yielded answers)) ∧
      tokens "\x7d\\$$\x7bdata.x key.y\x7d" =
        .ok [.text '\x7d', .escaped "\\$", .exprStart, .path "data.x", .path "key.y", .exprEnd] ∧
      parse [.text '\x7d', .escaped "\\$", .exprStart, .path "data.x", .path "key.y", .exprEnd] =
        .error (.expected (.token .exprEnd) (some (.path "key.y"))) ∧
      ((Token.path "key.y").isWord = true ∨ Token.path "key.y" = .exprEnd) := by
  have scanned : tokens "\x7d\\$$\x7bdata.x key.y\x7d" =
      .ok [.text '\x7d', .escaped "\\$", .exprStart, .path "data.x", .path "key.y", .exprEnd] := by
    decide +kernel
  have failed : parse [.text '\x7d', .escaped "\\$", .exprStart, .path "data.x", .path "key.y",
      .exprEnd] = .error (.expected (.token .exprEnd) (some (.path "key.y"))) := rfl
  obtain ⟨turns, _, faults⟩ :=
    literal_text_and_expressions_take_turns "\x7d\\$$\x7bdata.x key.y\x7d"
  obtain ⟨answers, scanner, asked, _, front, grouped⟩ := turns 4
  -- The scanner has entered the expression and not left it yet.
  have entered : ((Scanner.start "\x7d\\$$\x7bdata.x key.y\x7d").answers? 4).map
      (fun asked => asked.2.modes) = some [.expression, .literal] := by decide +kernel
  rw [asked] at entered
  -- That is the front of the scan, up to the first path.
  have first : (scan "\x7d\\$$\x7bdata.x key.y\x7d").tokens.take 4 =
      [.text '\x7d', .escaped "\\$", .exprStart, .path "data.x"] := by decide +kernel
  exact ⟨⟨answers, scanner, asked, Option.some.inj entered, front.trans first, grouped⟩, scanned,
    failed, (faults _ scanned _ failed).2.2 _ rfl⟩

end PayloadTemplate.Template
