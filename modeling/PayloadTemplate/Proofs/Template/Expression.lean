import PayloadTemplate.Proofs.Template.Lexing

/-! Scanning finds the words of an expression again when spaces keep them apart. -/

namespace PayloadTemplate.Template

open Text

/-! ## What tokens are found -/

/-- What every token that scanning finds is known to be. -/
def Token.Genuine : Token → Prop
  -- Nothing but a dollar sign can be escaped.
  | .escaped raw => raw = "\\$"
  | .shortcut spelling | .path spelling => ∃ text, path? text = some spelling.toList
  | .index name => isWordChar name = true
  | _ => True

/-- Scanning finds genuine tokens only. -/
theorem step_genuine {mode : Mode} {previous : Option Char} {text rest : List Char}
    {token : Token} (stepped : step mode previous text = .token token rest) : token.Genuine := by
  -- A path has been looked for, and an index has been tested.
  cases mode with
  | literal =>
    -- Of the tokens outside of expressions, only a shortcut has a path.
    change literalStep text = _ at stepped
    unfold literalStep at stepped
    repeat' split at stepped
    all_goals cases stepped
    all_goals simp [Token.Genuine]
    all_goals exact ⟨_, ‹_›⟩
  | expression =>
    change expressionStep previous text = _ at stepped
    fun_induction expressionStep previous text with
    | case1 _ tail ih => exact ih stepped
    | case2 previous text _ =>
      unfold wordStep at stepped
      repeat' split at stepped
      all_goals cases stepped
      -- A closing brace, a path, an index and a keyword.
      · trivial
      · rename_i found
        exact ⟨_, by simpa using found⟩
      · rename_i lone
        simp only [isLoneWordChar, Bool.and_eq_true] at lone
        exact lone.1.1
      · trivial

/-- All tokens of a text are genuine. -/
theorem Scans.genuine {mode : Mode} {previous : Option Char} {text : List Char}
    {tokens : List Token} (scans : Scans mode previous text tokens) :
    ∀ token ∈ tokens, token.Genuine := by
  -- Each token comes from one step.
  induction tokens generalizing mode previous text with
  | nil => simp
  | cons token tokens ih =>
    obtain ⟨rest, stepped, later⟩ := scans_cons_iff.mp scans
    exact List.forall_mem_cons.mpr ⟨step_genuine stepped, ih later⟩

/-! ## Words between separators -/

/-- Whether a token stands for a word between the braces of an expression. -/
def Token.isWord : Token → Bool
  | .path _ | .keyword _ | .index _ => true
  | _ => false

/-- Whether a text ends or goes on with a space or a closing brace. -/
def Separated (text : List Char) : Prop :=
  text.head? = none ∨ text.head? = some ' ' ∨ text.head? = some '}'

theorem Separated.not_continues {text : List Char} (separated : Separated text) :
    continuesPath text = false := by
  -- Neither separator occurs in a path.
  cases text with
  | nil => rfl
  | cons character rest =>
    rcases separated with none | space | brace
    · cases none
    · cases space
      show (isSegmentChar ' ' || ' ' == '.') = false
      decide +kernel
    · cases brace
      show (isSegmentChar '\x7d' || '\x7d' == '.') = false
      decide +kernel

/-- Neither a space nor a brace is a word character. -/
theorem separators_not_word :
    isWordChar ' ' = false ∧ isWordChar '\x7b' = false ∧ isWordChar '\x7d' = false := by
  decide +kernel

/-- No word character goes on where a word is separated from the next one. -/
theorem Separated.not_word {text : List Char} (separated : Separated text) :
    isWordAt text.head? = false := by
  -- Both separators are no word characters.
  obtain ⟨space, _, brace⟩ := separators_not_word
  rcases separated with found | found | found
  · rw [found]
    rfl
  · rw [found]
    exact space
  · rw [found]
    exact brace

/-- A path begins with a letter. -/
theorem path?_begins {text path : List Char} (found : path? text = some path) :
    ∃ character rest, path = character :: rest ∧ isWordChar character = true := by
  -- The first letter is that of the root.
  simp only [path?, Option.map_eq_some_iff] at found
  obtain ⟨root, chosen, rfl⟩ := found
  have member := List.mem_of_find?_eq_some chosen
  simp only [pathRoots, List.mem_cons, List.not_mem_nil, or_false] at member
  rcases member with rfl | rfl | rfl | rfl
  all_goals exact ⟨_, _, rfl, rfl⟩

/-- A genuine word begins with a word character. -/
theorem Token.Genuine.begins {token : Token} (genuine : token.Genuine)
    (word : token.isWord = true) :
    ∃ character rest, token.lexeme = character :: rest ∧ isWordChar character = true := by
  -- Paths begin with a root, keywords with a letter, and an index is the letter itself.
  cases token with
  | path spelling =>
    obtain ⟨_, found⟩ := genuine
    exact path?_begins found
  | keyword known => cases known <;> exact ⟨_, _, rfl, rfl⟩
  | index name => exact ⟨name, [], rfl, genuine⟩
  | _ => cases word

/-- A word character is none of the signs that stand between words or behind the last one. -/
theorem ne_of_isWordChar {character sign : Char} (word : isWordChar character = true)
    (other : isWordChar sign = false) : character ≠ sign := by
  -- The test tells the two characters apart.
  rintro rfl
  rw [word] at other
  cases other

/-- Every root has a second character, which is a word character. -/
theorem root_second {root : List Char} (member : root ∈ pathRoots) :
    ∃ first second rest, root = first :: second :: rest ∧ isWordChar second = true := by
  -- Each of the roots is looked at.
  simp only [pathRoots, List.mem_cons, List.not_mem_nil, or_false] at member
  rcases member with rfl | rfl | rfl | rfl
  all_goals exact ⟨_, _, _, rfl, rfl⟩

/-- A path is found where no longer one begins. -/
theorem wordStep_path {previous : Option Char} {spelling : String} {after : List Char}
    (found : path? (spelling.toList ++ after) = some spelling.toList) :
    wordStep previous (spelling.toList ++ after) = .token (.path spelling) after := by
  -- The path is tried before everything but the closing brace.
  obtain ⟨character, rest, spelled, word⟩ := path?_begins found
  have notBrace := ne_of_isWordChar word separators_not_word.2.2
  have whole : String.ofList (character :: rest) = spelling := by
    rw [← spelled, String.ofList_toList]
  rw [spelled, List.cons_append] at found ⊢
  rw [wordStep, if_neg notBrace, found]
  simp [whole]

/-- An index is found where no word character stands next to it. -/
theorem wordStep_index {previous : Option Char} {name : Char} {after : List Char}
    (word : isWordChar name = true) (apart : isWordAt previous = false)
    (ends : isWordAt after.head? = false) :
    wordStep previous (name :: after) = .token (.index name) after := by
  -- A path would go on with its second letter.
  have noPath : path? (name :: after) = none := by
    rw [path?_eq_none_iff]
    intro root member starts
    obtain ⟨first, second, rest, rfl, letter⟩ := root_second member
    obtain ⟨later, same⟩ := starts
    cases same
    simp [isWordAt, letter] at ends
  rw [wordStep, if_neg (ne_of_isWordChar word separators_not_word.2.2), noPath]
  simp [isLoneWordChar, word, apart, ends]

/-- A keyword is found whatever stands next to it: no path begins like it, and no other keyword
does. -/
theorem wordStep_keyword (previous : Option Char) (word : Keyword) (after : List Char) :
    wordStep previous (word.word ++ after) = .token (.keyword word) after := by
  -- No keyword begins like a path or is a lone letter, and none is hidden by one before it.
  cases word
  all_goals
    simp [wordStep, Keyword.word, path?, pathRoots, keywords, List.find?, List.isPrefixOf,
      isLoneWordChar, isWordAt, isWordChar]

/-- Where no space stands, an expression goes on with a word or its closing brace. -/
theorem expressionStep_of_solid {text : List Char} (solid : text.head? ≠ some ' ')
    (previous : Option Char) : expressionStep previous text = wordStep previous text := by
  -- A space would have been skipped.
  rw [expressionStep]
  rintro rest rfl
  exact solid rfl

/-- Every genuine word is found where it stands between separators. -/
theorem expressionStep_word {previous : Option Char} {token : Token} {after : List Char}
    (word : token.isWord = true) (genuine : token.Genuine) (apart : isWordAt previous = false)
    (separated : Separated after) :
    expressionStep previous (token.lexeme ++ after) = .token token after := by
  obtain ⟨character, rest, spelled, letter⟩ := genuine.begins word
  -- Its first character is no blank, so that none is skipped.
  have solid : (token.lexeme ++ after).head? ≠ some ' ' := by
    rw [spelled]
    rintro ⟨⟩
    exact ne_of_isWordChar letter separators_not_word.1 rfl
  rw [expressionStep_of_solid solid]
  -- Only paths, keywords and indices are words.
  cases token with
  | path spelling =>
    obtain ⟨text, found⟩ := genuine
    exact wordStep_path (path?_append found separated.not_continues)
  | keyword known => exact wordStep_keyword previous known after
  | index name => exact wordStep_index genuine apart separated.not_word
  | _ => cases word

/-- A space in front of the next token of an expression is skipped. -/
theorem scans_space_iff {previous : Option Char} {text : List Char} {tokens : List Token} :
    Scans .expression previous (' ' :: text) tokens ↔
      Scans .expression (some ' ') text tokens := by
  -- One step skips the space and goes on.
  unfold Scans
  rw [scanFrom_eq, scanFrom_eq .expression (some ' ')]
  simp only [step, expressionStep]

/-- The text of an expression: its words, a space between any two of them, and the braces. -/
def expressionText (words : List Token) : List Char :=
  -- Without the spaces, neighbouring words would run into each other.
  '$' :: '{' :: ([' '].intercalate (words.map Token.lexeme) ++ ['}'])

/-- A word does not leave the expression that it stands in. -/
theorem after_of_isWord {token : Token} (word : token.isWord = true) :
    Mode.expression.after token = .expression := by
  -- The closing brace alone ends an expression.
  cases token with
  | exprEnd => cases word
  | _ => rfl

/-- The words of an expression are found one after the other. -/
theorem scans_words {words found : List Token} {continuation : List Char}
    (genuine : ∀ token ∈ words, token.isWord = true ∧ token.Genuine)
    (later : Scans .literal none continuation found) (previous : Option Char)
    (apart : isWordAt previous = false) :
    Scans .expression previous
      ([' '].intercalate (words.map Token.lexeme) ++ '}' :: continuation)
      (words ++ .exprEnd :: found) := by
  have closed : ∀ previous, Scans .expression previous ('}' :: continuation) (.exprEnd :: found) :=
    fun _ => scans_cons_iff.mpr ⟨continuation, rfl, later.of_literal⟩
  -- Behind each word there is a space and the next one, or the closing brace.
  induction words generalizing previous with
  | nil => exact closed previous
  | cons token others ih =>
    obtain ⟨⟨word, itself⟩, genuine⟩ := List.forall_mem_cons.mp genuine
    cases others with
    | nil =>
      rw [List.map_cons, List.map_nil, List.intercalate_singleton]
      refine scans_cons_iff.mpr ⟨_, expressionStep_word word itself apart (.inr (.inr rfl)), ?_⟩
      rw [after_of_isWord word]
      -- What stands in front of the closing brace does not matter.
      exact closed _
    | cons next others =>
      have spaced := ih genuine (some ' ') separators_not_word.1
      rw [List.map_cons, List.map_cons, List.intercalate_cons_cons, ← List.map_cons,
        List.append_assoc, List.append_assoc]
      refine scans_cons_iff.mpr ⟨_, expressionStep_word word itself apart (.inr (.inl rfl)), ?_⟩
      rw [after_of_isWord word]
      exact scans_space_iff.mpr spaced

/-- The tokens of an expression are found again in its text. -/
theorem scans_expressionText {words found : List Token} {continuation : List Char}
    (genuine : ∀ token ∈ words, token.isWord = true ∧ token.Genuine)
    (later : Scans .literal none continuation found) :
    Scans .literal none (expressionText words ++ continuation)
      (.exprStart :: (words ++ .exprEnd :: found)) := by
  -- The opening brace is no word character, so an index may follow it.
  have inside := scans_words genuine later (some '{') separators_not_word.2.1
  simp only [expressionText, List.cons_append, List.append_assoc, List.nil_append]
  exact scans_cons_iff.mpr ⟨_, rfl, inside⟩

/-- A word that stands alone in braces is found in front of literal text. -/
theorem scans_braced {word : Token} (plain : word.isWord = true) (genuine : word.Genuine)
    {continuation : List Char} {found : List Token}
    (later : Scans .literal none continuation found) :
    Scans .literal none (expressionText [word] ++ continuation)
      (.exprStart :: word :: .exprEnd :: found) :=
  scans_expressionText (List.forall_mem_singleton.mpr ⟨plain, genuine⟩) later

end PayloadTemplate.Template
