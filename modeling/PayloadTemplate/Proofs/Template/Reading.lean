import PayloadTemplate.Proofs.Outcome
import PayloadTemplate.Proofs.Template.Grammar

/-! What the parser takes in one go: single tokens, runs of text and whole bodies. -/

namespace PayloadTemplate.Template

/-! ## Taking single tokens -/

theorem expectToken_eq_ok_iff {expected : Token} {tokens rest : List Token} :
    expectToken expected tokens = .ok rest ↔ tokens = expected :: rest := by
  -- The first token is the expected one or is refused.
  cases tokens with
  | nil => simp [expectToken]
  | cons token others =>
    simp only [expectToken]
    split <;> simp_all

theorem expectPath_eq_ok_iff {path : String} {tokens rest : List Token} :
    expectPath tokens = .ok (path, rest) ↔ tokens = .path path :: rest := by
  unfold expectPath
  split <;> simp_all

theorem expectIndex_eq_ok_iff {enclosing : List Char} {name : Char} {tokens rest : List Token} :
    expectIndex enclosing tokens = .ok (name, rest) ↔
      tokens = .index name :: rest ∧ name ∉ enclosing := by
  -- A name that is in use is refused.
  unfold expectIndex
  split
  · split
    · rename_i used
      simp only [reduceCtorEq, List.cons.injEq, Token.index.injEq, false_iff]
      intro taken
      obtain ⟨⟨rfl, _⟩, fresh⟩ := taken
      exact fresh used
    · -- A new name is taken from the front.
      rename_i fresh
      simp only [Except.ok.injEq, Prod.mk.injEq, List.cons.injEq, Token.index.injEq]
      constructor
      · intro taken
        obtain ⟨rfl, rfl⟩ := taken
        exact ⟨⟨rfl, rfl⟩, fresh⟩
      · exact And.left
  · simp_all
  · simp

theorem expectPathEnd_eq_ok_iff {path : String} {tokens rest : List Token} :
    expectPathEnd tokens = .ok (path, rest) ↔ tokens = .path path :: .exprEnd :: rest := by
  -- A path and a brace are taken one after the other.
  simp only [expectPathEnd, bind_eq_ok_iff, Prod.exists, expectPath_eq_ok_iff,
    expectToken_eq_ok_iff, pure_eq_ok_iff, Prod.mk.injEq]
  constructor
  · intro taken
    obtain ⟨_, _, rfl, _, rfl, rfl, rfl⟩ := taken
    rfl
  · rintro rfl
    exact ⟨path, _, rfl, rest, rfl, rfl, rfl⟩

theorem expectCloser_eq_ok_iff {word : Keyword} {tokens rest : List Token} :
    expectCloser word tokens = .ok rest ↔ tokens = closing word ++ rest := by
  -- Three tokens are taken one after the other.
  simp only [expectCloser, bind_eq_ok_iff, expectToken_eq_ok_iff, closing, List.cons_append,
    List.nil_append]
  constructor
  · intro taken
    obtain ⟨_, rfl, _, rfl, rfl⟩ := taken
    rfl
  · rintro rfl
    exact ⟨_, rfl, _, rfl, rfl⟩

theorem escapedChar_eq_ok_iff {raw : String} {character : Char} :
    escapedChar raw = .ok character ↔ ∃ sign, raw.toList = [sign, character] := by
  unfold escapedChar
  split <;> simp_all

/-! ## Runs of text and the ends of bodies -/

/-- Where no character stands, a run of text is empty. -/
theorem textRun_of_not_character {tokens : List Token}
    (stopped : startsWithCharacter tokens = false) : textRun tokens = ([], tokens) := by
  -- Only a character would be taken.
  cases tokens with
  | nil => rfl
  | cons token rest => cases token <;> simp_all [startsWithCharacter, textRun]

/-- A run of text ends where the characters end. -/
theorem textRun_map_append (characters : List Char) {tokens : List Token}
    (stopped : startsWithCharacter tokens = false) :
    textRun (characters.map .text ++ tokens) = (characters, tokens) := by
  -- The characters are taken one after the other.
  induction characters with
  | nil => exact textRun_of_not_character stopped
  | cons character rest ih => simp only [List.map_cons, List.cons_append, textRun, ih]

/-- A run of text takes the characters at the start and leaves the rest. -/
theorem textRun_append (tokens : List Token) :
    tokens = (textRun tokens).1.map .text ++ (textRun tokens).2 ∧
      startsWithCharacter (textRun tokens).2 = false := by
  -- The characters that are taken are put back one after the other.
  induction tokens with
  | nil => exact ⟨rfl, rfl⟩
  | cons token rest ih =>
    cases starts : startsWithCharacter (token :: rest) with
    | false =>
      -- Anything else ends the run.
      rw [textRun_of_not_character starts]
      exact ⟨rfl, starts⟩
    | true =>
      cases token with
      | text character =>
        refine ⟨?_, ih.2⟩
        rw [textRun, List.map_cons, List.cons_append, ← ih.1]
      | _ => cases starts

/-- A body is complete when it is not empty and does not end with the tokens before its closer. -/
theorem completeBody_eq_ok_iff {closers : List Keyword} {body complete : List Item × List Token} :
    completeBody closers body = .ok complete ↔
      complete = body ∧ body.1 ≠ [] ∧ (body.2 = [] → closers = []) := by
  -- Both refusals are ruled out one after the other.
  unfold completeBody
  split
  · rename_i unclosed
    simp_all
  · rename_i closed
    have closed : body.2 = [] → closers = [] := by simpa using closed
    split
    · rename_i empty
      simp [List.isEmpty_iff.mp empty]
    · rename_i filled
      -- What is closed and not empty is handed on as it is.
      have filled : body.1 ≠ [] := by simpa using filled
      simp only [Except.ok.injEq, ne_eq, filled, not_false_eq_true, and_iff_left closed, and_true]
      exact eq_comm

/-! ## One step of reading items -/

section Steps

variable (steps : Nat) (closers : List Keyword) (enclosing : List Char)

theorem readItems_text (character : Char) (rest : List Token) :
    readItems (steps + 1) closers enclosing (.text character :: rest) = (do
      let (items, after) ← readItems steps closers enclosing (textRun rest).2
      return (.text (String.ofList (character :: (textRun rest).1)) :: items, after)) := rfl

theorem readItems_escaped (raw : String) (rest : List Token) :
    readItems (steps + 1) closers enclosing (.escaped raw :: rest) = (do
      let character ← escapedChar raw
      let (items, after) ← readItems steps closers enclosing rest
      return (.escaped character :: items, after)) := rfl

theorem readItems_shortcut (path : String) (rest : List Token) :
    readItems (steps + 1) closers enclosing (.shortcut path :: rest) = (do
      let (items, after) ← readItems steps closers enclosing rest
      return (.reference path :: items, after)) := rfl

theorem readItems_closer {word : Keyword} (closer : word ∈ closers) (rest : List Token) :
    readItems (steps + 1) closers enclosing (.exprStart :: .keyword word :: rest) =
      .ok ([], .exprStart :: .keyword word :: rest) :=
  if_pos closer

theorem readItems_unexpected {word : Keyword} (foreign : word ∉ closers)
    (closes : word.closesBlock = true) (rest : List Token) :
    readItems (steps + 1) closers enclosing (.exprStart :: .keyword word :: rest) =
      .error (.unexpectedCloser word) :=
  (if_neg foreign).trans (if_pos closes)

/-- An expression that is opened by none of the words that close or divide a block is read. -/
theorem readItems_opening {tokens : List Token}
    (opens : ∀ word others, tokens = .keyword word :: others →
      word ∉ closers ∧ word.closesBlock = false) :
    readItems (steps + 1) closers enclosing (.exprStart :: tokens) = (do
      let (item, after) ← readExpression steps enclosing tokens
      let (items, after) ← readItems steps closers enclosing after
      return (item :: items, after)) := by
  -- A keyword is looked at before the expression is read.
  cases tokens with
  | nil => rfl
  | cons token others =>
    cases token with
    | keyword word =>
      obtain ⟨foreign, noCloser⟩ := opens word others rfl
      exact (if_neg foreign).trans (if_neg (by simp [noCloser]))
    | _ => rfl

end Steps

end PayloadTemplate.Template
