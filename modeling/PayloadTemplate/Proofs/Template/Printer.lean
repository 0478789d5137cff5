import Mathlib.Control.Monad.Basic
import PayloadTemplate.Proofs.Template.Expression
import PayloadTemplate.Proofs.Template.Parsing

/-! Printing the items of a source gives a source with the same items. -/

namespace PayloadTemplate.Template

/-! ## Printing -/

mutual

/-- An item as a source has it, with every expression in braces. -/
def Item.print : Item → List Char
  | .text content => content.toList
  | .escaped character => ['\\', character]
  | .reference path => expressionText [.path path]
  | .whenTrue condition body =>
    expressionText [.keyword .ifWord, .path condition] ++
      (printItems body ++ expressionText [.keyword .endIfWord])
  | .whenFalse condition body =>
    expressionText [.keyword .ifWord, .keyword .notWord, .path condition] ++
      (printItems body ++ expressionText [.keyword .endIfWord])
  | .choice condition accepted refused =>
    expressionText [.keyword .ifWord, .path condition] ++
      (printItems accepted ++ (expressionText [.keyword .elseWord] ++
        (printItems refused ++ expressionText [.keyword .endIfWord])))
  | .loop index source body =>
    expressionText [.keyword .forWord, .index index, .keyword .inWord, .path source] ++
      (printItems body ++ expressionText [.keyword .endForWord])

/-- Items one after the other. -/
def printItems : List Item → List Char
  | [] => []
  | item :: rest => item.print ++ printItems rest

end

/-- The source that items are printed to. -/
def print (items : List Item) : String :=
  String.ofList (printItems items)

/-! ## Printed items are found again -/

/-- Characters open no expression. -/
theorem characters_mode_after (characters : List Char) :
    (characters.map Token.text).foldl Mode.after .literal = .literal := by
  -- No character changes the rules.
  induction characters with
  | nil => rfl
  | cons character others ih => exact ih

/-- Expressions are closed wherever the spelling of items ends. -/
theorem Spells.mode_after {items : List Item} {tokens : List Token}
    (spells : Spells items tokens) : tokens.foldl Mode.after .literal = .literal := by
  -- Every expression of a spelling ends with its brace.
  induction spells with
  | nil => rfl
  | text _ ih => rw [List.foldl_append, characters_mode_after, ih]
  | escaped _ _ ih => exact ih
  | shortcut _ ih => exact ih
  | braced _ ih => exact ih
  | whenTrue _ _ ihBody ih =>
    simpa [closing, Mode.after, ihBody] using ih
  | whenFalse _ _ ihBody ih =>
    simpa [closing, Mode.after, ihBody] using ih
  | choice _ _ _ ihAccepted ihRefused ih =>
    simpa [closing, Mode.after, ihAccepted, ihRefused] using ih
  | loop _ _ ihBody ih =>
    simpa [closing, Mode.after, ihBody] using ih

/-- Whether literal text is scanned to these tokens. -/
def Scanned (tokens : List Token) : Prop :=
  -- Which text it is does not matter, only that there is one.
  ∃ text, Scans .literal none text tokens

/-- Behind tokens that leave no expression open, literal text goes on. -/
theorem Scanned.behind (first : List Token) {second : List Token}
    (scanned : Scanned (first ++ second))
    (closed : first.foldl Mode.after .literal = .literal) : Scanned second := by
  -- The rules that apply behind these tokens are those of literal text.
  obtain ⟨text, scans⟩ := scanned
  obtain ⟨previous, rest, later⟩ := scans.append
  rw [closed] at later
  exact ⟨rest, later.of_literal⟩

/-- Behind the brace that ends an expression, literal text goes on. -/
theorem Scanned.behindExpression {words second : List Token}
    (scanned : Scanned (.exprStart :: (words ++ .exprEnd :: second))) : Scanned second := by
  -- Whatever the words are, the brace comes last.
  have whole : .exprStart :: (words ++ .exprEnd :: second) =
      (.exprStart :: (words ++ [.exprEnd])) ++ second := by simp
  rw [whole] at scanned
  exact scanned.behind _ (by simp [Mode.after])

/-- Scanning finds genuine tokens only. -/
theorem Scanned.genuine {tokens : List Token} (scanned : Scanned tokens) :
    ∀ token ∈ tokens, token.Genuine := by
  obtain ⟨text, scans⟩ := scanned
  exact scans.genuine

/-- Printed items begin with the same character as the tokens that they have been read from. -/
theorem printItems_begins {items : List Item} {spelled after : List Token}
    {continuation : List Char} {enclosing : List Char} (spells : Spells items spelled)
    (wellFormed : WellFormedItems enclosing items)
    (genuine : ∀ token ∈ spelled, token.Genuine)
    (same : continuation.head? = firstCharacter after) :
    (printItems items ++ continuation).head? = firstCharacter (spelled ++ after) := by
  -- A text keeps its characters; everything else begins with a sign that is the same again.
  cases spells with
  | nil => exact same
  | @text content rest tokens later =>
    obtain ⟨filled, _⟩ := wellFormed
    obtain ⟨character, run, spelling⟩ : ∃ character run, content.toList = character :: run :=
      List.exists_cons_of_ne_nil (by simpa [Item.WellFormed] using filled)
    simp [printItems, Item.print, spelling, firstCharacter, Token.lexeme]
  | @escaped raw sign character rest tokens pair later =>
    have known : raw = "\\$" := genuine (.escaped raw) List.mem_cons_self
    rw [known] at pair ⊢
    cases pair
    rfl
  | _ => rfl

/-- Behind scanned tokens, another text takes the place of the one that they have been found in
front of.  It begins in the same way, and not with a character that stands for itself. -/
structure Replaced (spelled after : List Token) (continuation : List Char)
    (found : List Token) : Prop where
  /-- What has been scanned. -/
  scanned : Scanned (spelled ++ after)
  /-- No character follows. -/
  stopped : startsWithCharacter after = false
  /-- The other text begins in the same way. -/
  same : continuation.head? = firstCharacter after
  /-- What the other text is scanned to. -/
  again : Scans .literal none continuation found

/-- The same text may be replaced behind the tokens at the end alone. -/
theorem Replaced.behind (first : List Token) {second after found : List Token}
    {continuation : List Char} (replaced : Replaced (first ++ second) after continuation found)
    (closed : first.foldl Mode.after .literal = .literal) :
    Replaced second after continuation found := by
  -- Only what has been scanned becomes shorter.
  obtain ⟨scanned, stopped, same, again⟩ := replaced
  rw [List.append_assoc] at scanned
  exact ⟨scanned.behind first closed, stopped, same, again⟩

/-- The same text may be replaced behind the tokens that follow an expression. -/
theorem Replaced.behindExpression {words second after found : List Token}
    {continuation : List Char}
    (replaced : Replaced (.exprStart :: (words ++ .exprEnd :: second)) after continuation found) :
    Replaced second after continuation found := by
  -- Only what has been scanned becomes shorter.
  obtain ⟨scanned, stopped, same, again⟩ := replaced
  simp only [List.cons_append, List.append_assoc] at scanned
  exact ⟨scanned.behindExpression, stopped, same, again⟩

/-- Items are found again in their print, in some spelling, whatever text takes the place of the one
behind them. -/
structure Reprints (items : List Item) (spelled : List Token) : Prop where
  /-- The spelling that is found. -/
  canonical : ∀ {after : List Token} {continuation : List Char} {found : List Token},
    Replaced spelled after continuation found →
      ∃ canonical, Spells items canonical ∧
        Scans .literal none (printItems items ++ continuation) (canonical ++ found)

section Reprinting

variable {body rest : List Item} {inside tokens after found : List Token}
  {continuation : List Char}

/-- Of no items, nothing is printed. -/
theorem Reprints.nil : Reprints [] [] where
  canonical := fun replaced => ⟨[], .nil, replaced.again⟩

/-- The characters of a text are found again because what follows it begins in the same way. -/
theorem Reprints.text {content : String} {enclosing : List Char} (later : Spells rest tokens)
    (separate : startsWithText rest = false) (wellFormed : WellFormedItems enclosing rest)
    (restReprints : Reprints rest tokens) :
    Reprints (.text content :: rest) (content.toList.map .text ++ tokens) := by
  -- What stands behind the text has been scanned to no character.
  constructor
  intro after continuation found replaced
  have genuine : ∀ token ∈ tokens, token.Genuine := fun token member =>
    replaced.scanned.genuine token (by simp [member])
  obtain ⟨canonical, spellsRest, restAgain⟩ :=
    restReprints.canonical (replaced.behind _ (characters_mode_after _))
  -- The run stops where it did, since the printed rest begins with the same character.
  have begins : (printItems rest ++ continuation).head? = firstCharacter (tokens ++ after) :=
    printItems_begins later wellFormed genuine replaced.same
  obtain ⟨text, scans⟩ := replaced.scanned
  rw [List.append_assoc] at scans
  have run := scans.run (later.no_character separate replaced.stopped) begins restAgain
  refine ⟨_, .text spellsRest, ?_⟩
  simpa [printItems, Item.print] using run.2

/-- The only escape is that of a dollar sign. -/
theorem Reprints.escaped {raw : String} {sign character : Char}
    (pair : raw.toList = [sign, character]) (restReprints : Reprints rest tokens) :
    Reprints (.escaped character :: rest) (.escaped raw :: tokens) := by
  -- Scanning finds no other escape.
  constructor
  intro after continuation found replaced
  have known : raw = "\\$" := replaced.scanned.genuine (.escaped raw) List.mem_cons_self
  rw [known] at pair replaced
  cases pair
  obtain ⟨canonical, spellsRest, restAgain⟩ :=
    restReprints.canonical (replaced.behind [.escaped "\\$"] rfl)
  refine ⟨.escaped "\\$" :: canonical, .escaped rfl spellsRest, ?_⟩
  exact scans_cons_iff.mpr ⟨_, rfl, restAgain.of_literal⟩

/-- A genuine path is found again in braces. -/
theorem Reprints.reference {path : String} (restReprints : Reprints rest tokens)
    (genuine : (Token.path path).Genuine) (replaced : Replaced tokens after continuation found) :
    ∃ canonical, Spells (.reference path :: rest) canonical ∧
      Scans .literal none (printItems (.reference path :: rest) ++ continuation)
        (canonical ++ found) := by
  -- The braces keep the path apart from what follows.
  obtain ⟨canonical, spellsRest, restAgain⟩ := restReprints.canonical replaced
  refine ⟨_, .braced spellsRest, ?_⟩
  simpa [printItems, Item.print] using scans_braced rfl genuine restAgain

/-- A path outside an expression is found again in braces. -/
theorem Reprints.shortcut {path : String} (restReprints : Reprints rest tokens) :
    Reprints (.reference path :: rest) (.shortcut path :: tokens) := by
  -- Scanning has found the path in front of what followed then.
  constructor
  intro after continuation found replaced
  have genuine : (Token.path path).Genuine :=
    replaced.scanned.genuine (.shortcut path) List.mem_cons_self
  exact restReprints.reference genuine (replaced.behind [.shortcut path] rfl)

/-- A path that is an expression of its own is found again. -/
theorem Reprints.braced {path : String} (restReprints : Reprints rest tokens) :
    Reprints (.reference path :: rest) (.exprStart :: .path path :: .exprEnd :: tokens) := by
  -- Scanning has found the path between its braces.
  constructor
  intro after continuation found replaced
  have genuine : (Token.path path).Genuine :=
    replaced.scanned.genuine (.path path) (by simp)
  exact restReprints.reference genuine (replaced.behind [.exprStart, .path path, .exprEnd] rfl)

/-- An expression and a body behind it are found again in front of what ends the body. -/
theorem Reprints.opened (words : List Token) (areWords : ∀ token ∈ words, token.isWord = true)
    (bodyReprints : Reprints body inside)
    (replaced : Replaced (.exprStart :: (words ++ .exprEnd :: inside)) after continuation found) :
    ∃ canonical, Spells body canonical ∧
      Scans .literal none (expressionText words ++ (printItems body ++ continuation))
        (.exprStart :: (words ++ .exprEnd :: (canonical ++ found))) := by
  -- The words are genuine because they have been scanned.
  have genuine : ∀ token ∈ words, token.isWord = true ∧ token.Genuine := by
    intro token member
    exact ⟨areWords token member, replaced.scanned.genuine token (by simp [member])⟩
  obtain ⟨canonical, spells, bodyAgain⟩ := bodyReprints.canonical replaced.behindExpression
  exact ⟨canonical, spells, scans_expressionText genuine bodyAgain⟩

/-- A block is found again when its body is and when what follows it is. -/
theorem Reprints.block {word : Keyword} (words : List Token)
    (areWords : ∀ token ∈ words, token.isWord = true) (within : Spells body inside)
    (bodyReprints : Reprints body inside) (restReprints : Reprints rest tokens)
    (replaced : Replaced
      (.exprStart :: (words ++ .exprEnd :: (inside ++ (closing word ++ tokens)))) after
      continuation found) :
    ∃ canonical others, Spells body canonical ∧ Spells rest others ∧
      Scans .literal none
        (expressionText words ++ (printItems body ++
          (expressionText [.keyword word] ++ (printItems rest ++ continuation))))
        (.exprStart ::
          (words ++ .exprEnd :: (canonical ++ (closing word ++ (others ++ found))))) := by
  -- From the end to the front, each part is found in front of the later ones.
  have restReplaced : Replaced tokens after continuation found :=
    (replaced.behindExpression.behind inside within.mode_after).behind (closing word) rfl
  obtain ⟨others, spellsRest, restAgain⟩ := restReprints.canonical restReplaced
  have closerAgain : Scans .literal none
      (expressionText [.keyword word] ++ (printItems rest ++ continuation))
      (closing word ++ (others ++ found)) :=
    scans_expressionText (by simp [Token.isWord, Token.Genuine]) restAgain
  -- The closing expression takes the place of itself.
  have scanned : Scanned ((.exprStart :: (words ++ .exprEnd :: inside)) ++
      (closing word ++ (tokens ++ after))) := by
    simpa using replaced.scanned
  obtain ⟨canonical, spellsBody, blockAgain⟩ :=
    bodyReprints.opened words areWords ⟨scanned, rfl, rfl, closerAgain⟩
  exact ⟨canonical, others, spellsBody, spellsRest, blockAgain⟩

/-- A conditional block is found again. -/
theorem Reprints.whenTrue {condition : String} (within : Spells body inside)
    (bodyReprints : Reprints body inside) (restReprints : Reprints rest tokens) :
    Reprints (.whenTrue condition body :: rest)
      (.exprStart :: .keyword .ifWord :: .path condition :: .exprEnd ::
        (inside ++ (closing .endIfWord ++ tokens))) := by
  -- The block opens with one keyword and its condition.
  constructor
  intro after continuation found replaced
  obtain ⟨canonical, others, spellsBody, spellsRest, blockAgain⟩ :=
    Reprints.block [.keyword .ifWord, .path condition] (by simp [Token.isWord]) within
      bodyReprints restReprints replaced
  refine ⟨_, .whenTrue spellsBody spellsRest, ?_⟩
  simpa [printItems, Item.print] using blockAgain

/-- A negated conditional block is found again. -/
theorem Reprints.whenFalse {condition : String} (within : Spells body inside)
    (bodyReprints : Reprints body inside) (restReprints : Reprints rest tokens) :
    Reprints (.whenFalse condition body :: rest)
      (.exprStart :: .keyword .ifWord :: .keyword .notWord :: .path condition :: .exprEnd ::
        (inside ++ (closing .endIfWord ++ tokens))) := by
  -- The negation is one more word in front of the condition.
  constructor
  intro after continuation found replaced
  obtain ⟨canonical, others, spellsBody, spellsRest, blockAgain⟩ :=
    Reprints.block [.keyword .ifWord, .keyword .notWord, .path condition]
      (by simp [Token.isWord]) within bodyReprints restReprints replaced
  refine ⟨_, .whenFalse spellsBody spellsRest, ?_⟩
  simpa [printItems, Item.print] using blockAgain

/-- A divided conditional block is found again. -/
theorem Reprints.choice {condition : String} {refused : List Item} {second : List Token}
    (within : Spells body inside) (withinRefused : Spells refused second)
    (bodyReprints : Reprints body inside) (refusedReprints : Reprints refused second)
    (restReprints : Reprints rest tokens) :
    Reprints (.choice condition body refused :: rest)
      (.exprStart :: .keyword .ifWord :: .path condition :: .exprEnd ::
        (inside ++ (closing .elseWord ++ (second ++ (closing .endIfWord ++ tokens))))) := by
  constructor
  intro after continuation found replaced
  -- What divides the block opens a block of its own, with the second body.
  have opening : Replaced
      (.exprStart :: ([.keyword .ifWord, .path condition] ++ .exprEnd ::
        (inside ++ (closing .elseWord ++ (second ++ (closing .endIfWord ++ tokens))))))
      after continuation found := replaced
  obtain ⟨chosen, others, spellsRefused, spellsRest, blockAgain⟩ :=
    Reprints.block [.keyword .elseWord] (by simp [Token.isWord]) withinRefused refusedReprints
      restReprints (opening.behindExpression.behind inside within.mode_after)
  -- The first body is printed in front of all that.
  have scanned : Scanned
      ((.exprStart :: ([.keyword .ifWord, .path condition] ++ .exprEnd :: inside)) ++
        (closing .elseWord ++ (second ++ (closing .endIfWord ++ (tokens ++ after))))) := by
    simpa using replaced.scanned
  obtain ⟨canonical, spellsBody, wholeAgain⟩ :=
    bodyReprints.opened [.keyword .ifWord, .path condition] (by simp [Token.isWord])
      ⟨scanned, rfl, rfl, blockAgain⟩
  refine ⟨_, .choice spellsBody spellsRefused spellsRest, ?_⟩
  simpa [printItems, Item.print, closing] using wholeAgain

/-- A loop is found again. -/
theorem Reprints.loop {index : Char} {source : String} (within : Spells body inside)
    (bodyReprints : Reprints body inside) (restReprints : Reprints rest tokens) :
    Reprints (.loop index source body :: rest)
      (.exprStart :: .keyword .forWord :: .index index :: .keyword .inWord :: .path source ::
        .exprEnd :: (inside ++ (closing .endForWord ++ tokens))) := by
  -- The index and its keyword stand between the word that opens the loop and its source.
  constructor
  intro after continuation found replaced
  obtain ⟨canonical, others, spellsBody, spellsRest, blockAgain⟩ :=
    Reprints.block [.keyword .forWord, .index index, .keyword .inWord, .path source]
      (by simp [Token.isWord]) within bodyReprints restReprints replaced
  refine ⟨_, .loop spellsBody spellsRest, ?_⟩
  simpa [printItems, Item.print] using blockAgain

end Reprinting

/-- All well-formed items are found again in their print. -/
theorem Spells.reprints {items : List Item} {spelled : List Token}
    (spells : Spells items spelled) :
    ∀ {enclosing : List Char}, WellFormedItems enclosing items → Reprints items spelled := by
  -- Each item is found again in front of the items behind it.
  induction spells with
  | nil =>
    intro enclosing _
    exact .nil
  | text later ih =>
    intro enclosing wellFormed
    obtain ⟨_, separate, wellFormed⟩ := wellFormed
    exact .text later (separate rfl) wellFormed (ih wellFormed)
  | escaped pair _ ih =>
    intro enclosing wellFormed
    exact .escaped pair (ih wellFormed.2.2)
  | shortcut _ ih =>
    intro enclosing wellFormed
    exact .shortcut (ih wellFormed.2.2)
  | braced _ ih =>
    intro enclosing wellFormed
    exact .braced (ih wellFormed.2.2)
  | whenTrue within _ ihBody ih =>
    -- The bodies have been found again on their own, and the block puts its words around them.
    intro enclosing wellFormed
    obtain ⟨⟨_, bodyWellFormed⟩, _, wellFormed⟩ := wellFormed
    exact .whenTrue within (ihBody bodyWellFormed) (ih wellFormed)
  | whenFalse within _ ihBody ih =>
    intro enclosing wellFormed
    obtain ⟨⟨_, bodyWellFormed⟩, _, wellFormed⟩ := wellFormed
    exact .whenFalse within (ihBody bodyWellFormed) (ih wellFormed)
  | choice within withinRefused _ ihAccepted ihRefused ih =>
    intro enclosing wellFormed
    obtain ⟨⟨⟨_, acceptedWellFormed⟩, _, refusedWellFormed⟩, _, wellFormed⟩ := wellFormed
    exact .choice within withinRefused (ihAccepted acceptedWellFormed)
      (ihRefused refusedWellFormed) (ih wellFormed)
  | loop within _ ihBody ih =>
    intro enclosing wellFormed
    obtain ⟨⟨_, _, bodyWellFormed⟩, _, wellFormed⟩ := wellFormed
    exact .loop within (ihBody bodyWellFormed) (ih wellFormed)

/-- Printing the items of a source gives a source with these items. -/
theorem itemsOf_print {source : String} {items : List Item} (parsed : itemsOf source = .ok items) :
    itemsOf (print items) = .ok items := by
  -- Nothing follows the items of a whole source, and nothing follows their print.
  obtain ⟨found, scanned, built⟩ := itemsOf_eq_ok_iff.mp parsed
  have scans : Scans .literal none source.toList found := tokens_eq_ok_iff.mp scanned
  obtain ⟨wellFormed, spells⟩ := parse_eq_ok_iff.mp built
  have nothing : Scans .literal none [] [] := scans_nil_iff.mpr rfl
  rw [← List.append_nil found] at scans
  obtain ⟨canonical, spelled, again⟩ :=
    (spells.reprints wellFormed.2).canonical ⟨⟨_, scans⟩, rfl, rfl, nothing⟩
  rw [List.append_nil, List.append_nil] at again
  -- The printed source has tokens that spell the same items.
  refine itemsOf_eq_ok_iff.mpr ⟨canonical, tokens_eq_ok_iff.mpr ?_, ?_⟩
  · rw [print, String.toList_ofList]
    exact again
  · exact parse_eq_ok_iff.mpr ⟨wellFormed, spelled⟩

/-- A path in braces is a source with that reference alone. -/
theorem itemsOf_braced {path : String} (whole : path? path.toList = some path.toList) :
    itemsOf ("$\x7b" ++ path ++ "\x7d") = .ok [.reference path] := by
  -- The path is the only word of its expression.
  have genuine : (Token.path path).Genuine := ⟨_, whole⟩
  have nothing : Scans .literal none [] [] := scans_nil_iff.mpr rfl
  have scans := scans_braced rfl genuine nothing
  refine itemsOf_eq_ok_iff.mpr ⟨[.exprStart, .path path, .exprEnd], tokens_eq_ok_iff.mpr ?_, ?_⟩
  · simpa [expressionText, Token.lexeme] using scans
  · refine parse_eq_ok_iff.mpr ⟨⟨by simp, ?_⟩, .braced .nil⟩
    exact ⟨trivial, fun _ => rfl, trivial⟩

/-- Dollar signs in front of an escape and of a shortcut, and spaces that are not printed. -/
theorem itemsOf_print_signs :
    itemsOf "$\\$data.$\x7b for i in config.l\x7d$con$key.i.$\x7bendfor \x7d" =
        .ok [.text "$", .escaped '$', .text "data.",
          .loop 'i' "config.l" [.text "$con", .reference "key.i", .text "."]] ∧
      itemsOf "$\\$data.$\x7bfor i in config.l\x7d$con$\x7bkey.i\x7d.$\x7bendfor\x7d" =
        .ok [.text "$", .escaped '$', .text "data.",
          .loop 'i' "config.l" [.text "$con", .reference "key.i", .text "."]] := by
  have parsed : itemsOf "$\\$data.$\x7b for i in config.l\x7d$con$key.i.$\x7bendfor \x7d" =
      .ok [.text "$", .escaped '$', .text "data.",
        .loop 'i' "config.l" [.text "$con", .reference "key.i", .text "."]] := by
    refine itemsOf_eq_ok_iff.mpr ⟨[.text '$', .escaped "\\$", .text 'd', .text 'a', .text 't',
      .text 'a', .text '.', .exprStart, .keyword .forWord, .index 'i', .keyword .inWord,
      .path "config.l", .exprEnd, .text '$', .text 'c', .text 'o', .text 'n', .shortcut "key.i",
      .text '.', .exprStart, .keyword .endForWord, .exprEnd], ?_, rfl⟩
    decide +kernel
  -- A reference is printed with its braces, and no blanks are printed that are not needed.
  have printed : print [.text "$", .escaped '$', .text "data.",
      .loop 'i' "config.l" [.text "$con", .reference "key.i", .text "."]] =
        "$\\$data.$\x7bfor i in config.l\x7d$con$\x7bkey.i\x7d.$\x7bendfor\x7d" := by
    decide +kernel
  exact ⟨parsed, printed ▸ itemsOf_print parsed⟩

end PayloadTemplate.Template
