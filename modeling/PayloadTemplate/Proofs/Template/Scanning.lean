import PayloadTemplate.Proofs.Template.Expression
import PayloadTemplate.Template.Scanner

/-!
Scanning loses nothing of a source.  The tokens spell it out up to its end or to the illegal
character that is reported, and a scanner that is asked for one token after the other gives just
these.
-/

namespace PayloadTemplate.Template

open Text

/-! ## What a step takes from the text -/

/-- A run of segments starts the text that it has been found in. -/
theorem segmentRun_prefix (text : List Char) : segmentRun text <+: text := by
  -- Characters are taken from the front until one is refused.
  induction text with
  | nil => exact List.nil_prefix
  | cons character rest ih =>
    rw [segmentRun]
    split
    · exact List.cons_prefix_cons.mpr ⟨rfl, ih⟩
    · exact List.nil_prefix

/-- A path and the text behind it make up the text that it has been found in. -/
theorem path?_split {text path : List Char} (found : path? text = some path) :
    path ++ text.drop path.length = text := by
  simp only [path?, Option.map_eq_some_iff] at found
  obtain ⟨root, chosen, rfl⟩ := found
  -- The search has compared the root with the beginning of the text.
  have compared := List.find?_some chosen
  have starts : root <+: text := List.isPrefixOf_iff_prefix.mp compared
  obtain ⟨behind, rfl⟩ := starts
  -- What follows the root is taken from the front as well.
  have dotted : dottedSegments behind <+: behind := by
    unfold dottedSegments
    split
    · exact segmentRun_prefix _
    · exact List.nil_prefix
  -- Both pieces together are the front of the text, so the rest completes it.
  rw [List.drop_left]
  exact List.prefix_iff_eq_append.mp ((List.prefix_append_right_inj root).mpr dotted)

/-- What may stand in front of a token: spaces inside an expression, nothing in literal text. -/
def blanksOf : Mode → List Char → List Char
  | .literal, _ => []
  | .expression, text => text.takeWhile (· == ' ')

/-- A token of literal text is spelled at the start of the text and does not end an expression. -/
theorem literalStep_split {text rest : List Char} {token : Token}
    (found : literalStep text = .token token rest) :
    text = token.lexeme ++ rest ∧ token ≠ .exprEnd := by
  -- Each rule takes the characters that it has compared, and a shortcut those of its path.
  unfold literalStep at found
  split at found
  · cases found
  · cases found
    exact ⟨rfl, nofun⟩
  · cases found
    exact ⟨rfl, nofun⟩
  · split at found
    · -- The path is as long as the front of the text that it was found in.
      rename_i behind path located
      cases found
      refine ⟨?_, nofun⟩
      rw [Token.lexeme, String.toList_ofList, List.cons_append, path?_split located]
    · cases found
      exact ⟨rfl, nofun⟩
  · cases found
    exact ⟨rfl, nofun⟩

/-- A token of an expression is spelled at the start of the text and does not open another. -/
theorem wordStep_split {previous : Option Char} {text rest : List Char} {token : Token}
    (found : wordStep previous text = .token token rest) :
    text = token.lexeme ++ rest ∧ token ≠ .exprStart := by
  -- The rules are tried in order: the closing brace, a path, an index and the keywords.
  unfold wordStep at found
  split at found
  · cases found
  · split at found
    · rename_i brace
      cases found
      exact ⟨by rw [brace]; rfl, nofun⟩
    · split at found
      · rename_i path located
        cases found
        refine ⟨?_, nofun⟩
        rw [Token.lexeme, String.toList_ofList, path?_split located]
      · split at found
        · cases found
          exact ⟨rfl, nofun⟩
        · split at found
          · rename_i word chosen
            cases found
            -- The search has compared the keyword with the beginning of the text.
            have compared := List.find?_some chosen
            have starts := List.isPrefixOf_iff_prefix.mp compared
            exact ⟨(List.prefix_iff_eq_append.mp starts).symm, nofun⟩
          · cases found

/-- Words end where nothing is left. -/
theorem wordStep_eq_finished {previous : Option Char} {text : List Char}
    (finished : wordStep previous text = .finished) : text = [] := by
  -- Every first character either belongs to a token or is illegal.
  unfold wordStep at finished
  split at finished
  · rfl
  · repeat' split at finished
    all_goals cases finished

/-- A character is illegal where it has been looked at. -/
theorem wordStep_eq_illegal {previous : Option Char} {text rest : List Char}
    (illegal : wordStep previous text = .illegal rest) :
    ∃ character later, text = character :: later ∧ rest = text := by
  -- Only the last rule refuses a character, and it leaves the text as it is.
  unfold wordStep at illegal
  split at illegal
  · cases illegal
  · repeat' split at illegal
    all_goals cases illegal
    exact ⟨_, _, rfl, rfl⟩

/-- In an expression the spaces are skipped, and the last of them is what stands in front. -/
theorem expressionStep_eq (previous : Option Char) (text : List Char) :
    expressionStep previous text =
      wordStep ((blanksOf .expression text).getLast?.or previous) (text.dropWhile (· == ' ')) := by
  -- The blanks are skipped one by one, and the last of them is what stands in front.
  fun_induction expressionStep previous text with
  | case1 previous rest ih =>
    -- The space is what stands in front unless there are more of them.
    have last : (' ' :: blanksOf .expression rest).getLast?.or previous =
        (blanksOf .expression rest).getLast?.or (some ' ') := by
      cases blanksOf .expression rest with
      | nil => rfl
      | cons first others =>
        rw [List.getLast?_cons_cons, List.getLast?_cons]
        rfl
    have taken : blanksOf .expression (' ' :: rest) = ' ' :: blanksOf .expression rest := by
      simp [blanksOf]
    have dropped : (' ' :: rest).dropWhile (· == ' ') = rest.dropWhile (· == ' ') := by simp
    rw [ih, taken, dropped, last]
  | case2 previous text solid =>
    cases text with
    | nil => rfl
    | cons character rest =>
      have other : character ≠ ' ' := fun same => solid rest (by rw [same])
      simp [blanksOf, other]

/-- A step finds a token behind the blanks, or the end or an illegal character there. -/
theorem step_split (mode : Mode) (previous : Option Char) (text : List Char) :
    match step mode previous text with
    | .finished => text = blanksOf mode text ++ []
    | .token token rest => text = blanksOf mode text ++ (token.lexeme ++ rest)
    | .illegal rest => text = blanksOf mode text ++ rest := by
  cases mode with
  | literal =>
    -- There are no blanks, so the text begins with the token.
    rw [step]
    split
    · rename_i finished
      exact literalStep_eq_finished_iff.mp finished
    · rename_i found
      exact (literalStep_split found).1
    · rename_i illegal
      exact absurd illegal (literalStep_ne_illegal _ _)
  | expression =>
    -- The token is that of the text without its blanks.
    have split : blanksOf .expression text ++ text.dropWhile (· == ' ') = text :=
      List.takeWhile_append_dropWhile
    rw [step, expressionStep_eq]
    split
    · rename_i finished
      rw [wordStep_eq_finished finished] at split
      exact split.symm
    · rename_i found
      rw [(wordStep_split found).1] at split
      exact split.symm
    · rename_i illegal
      obtain ⟨_, _, _, rfl⟩ := wordStep_eq_illegal illegal
      exact split.symm

/-- Where a step finds no token, it has looked at a character. -/
theorem step_eq_illegal {mode : Mode} {previous : Option Char} {text rest : List Char}
    (illegal : step mode previous text = .illegal rest) :
    ∃ character later, rest = character :: later := by
  -- A scan that begins with the step would be stuck there.
  have stuck := scanFrom_stuck_ne_nil mode previous text
  rw [scanFrom_eq, illegal] at stuck
  refine List.exists_cons_of_ne_nil fun empty => stuck ?_
  rw [empty]

/-! ## What a scan takes from the text -/

/-- A text that spells tokens under the rules of a mode: their lexemes one after the other.  Spaces
may stand inside an expression, which need not be closed. -/
inductive SpelledOut : Mode → List Token → List Char → Prop where
  /-- No tokens are left, and no text. -/
  | done {mode : Mode} : SpelledOut mode [] []
  /-- A space inside an expression. -/
  | space {tokens : List Token} {text : List Char} (later : SpelledOut .expression tokens text) :
      SpelledOut .expression tokens (' ' :: text)
  /-- A token, which may enter or leave an expression. -/
  | token {mode : Mode} {token : Token} {tokens : List Token} {text : List Char}
      (later : SpelledOut (mode.after token) tokens text) :
      SpelledOut mode (token :: tokens) (token.lexeme ++ text)

/-- Blanks may stand in front of a spelling. -/
theorem SpelledOut.behindBlanks {mode : Mode} {tokens : List Token} {text : List Char}
    (spelled : SpelledOut mode tokens text) (source : List Char) :
    SpelledOut mode tokens (blanksOf mode source ++ text) := by
  cases mode with
  | literal => exact spelled
  | expression =>
    -- Inside an expression the blanks are spaces, which are put in front one by one.
    have spaces : (blanksOf .expression source).all (· == ' ') = true := List.all_takeWhile
    generalize blanksOf .expression source = blanks at spaces ⊢
    induction blanks with
    | nil => exact spelled
    | cons character rest ih =>
      rw [List.all_cons, Bool.and_eq_true, beq_iff_eq] at spaces
      rw [spaces.1]
      exact .space (ih spaces.2)

/-- The tokens of a scan spell the text up to where the scan is stuck. -/
theorem scanFrom_spells (mode : Mode) (previous : Option Char) (text : List Char) :
    ∃ spelled, text = spelled ++ (scanFrom mode previous text).stuck.getD [] ∧
      SpelledOut mode (scanFrom mode previous text).tokens spelled := by
  -- Each step splits the text where the blanks and the token end.
  fun_induction scanFrom mode previous text with
  | case1 mode previous text finished =>
    have split := step_split mode previous text
    have blank : SpelledOut mode [] (blanksOf mode text ++ []) := SpelledOut.done.behindBlanks text
    rw [finished] at split
    rw [← split] at blank
    exact ⟨text, (List.append_nil text).symm, blank⟩
  | case2 mode previous text rest illegal =>
    have split := step_split mode previous text
    rw [illegal] at split
    refine ⟨blanksOf mode text, split, ?_⟩
    have blank : SpelledOut mode [] (blanksOf mode text ++ []) := SpelledOut.done.behindBlanks text
    rwa [List.append_nil] at blank
  | case3 mode previous text token rest found later ih =>
    have split := step_split mode previous text
    rw [found] at split
    -- What the later steps spell stands behind this token.
    obtain ⟨spelled, behind, spells⟩ := ih
    refine ⟨blanksOf mode text ++ (token.lexeme ++ spelled), ?_,
      (SpelledOut.token spells).behindBlanks text⟩
    rw [List.append_assoc, List.append_assoc, ← behind]
    exact split

/-- Every token of a scan is genuine, also when the scan is stuck behind them. -/
theorem scanFrom_genuine (mode : Mode) (previous : Option Char) (text : List Char) :
    ∀ token ∈ (scanFrom mode previous text).tokens, token.Genuine := by
  -- The tokens come from the steps of the scan.
  fun_induction scanFrom mode previous text with
  | case1 => simp
  | case2 => simp
  | case3 mode previous text token rest found later ih =>
    exact List.forall_mem_cons.mpr ⟨step_genuine found, ih⟩

/-- There are no more tokens than characters. -/
theorem scanFrom_length (mode : Mode) (previous : Option Char) (text : List Char) :
    (scanFrom mode previous text).tokens.length ≤ text.length := by
  -- Each token leaves a shorter text.
  fun_induction scanFrom mode previous text with
  | case1 => simp
  | case2 => simp
  | case3 mode previous text token rest found later ih =>
    have shorter := step_shorter found
    rw [List.length_cons]
    exact Nat.lt_of_le_of_lt ih shorter

/-- There are no more characters than bytes. -/
theorem length_le_byteCount (text : List Char) : text.length ≤ byteCount text := by
  induction text with
  | nil => exact Nat.le_refl _
  | cons character rest ih =>
    -- Every character takes up at least one byte.
    have positive := character.utf8Size_pos
    rw [List.length_cons, byteCount_cons]
    omega

/-! ## One answer of a scanner -/

/-- The modes that have been entered where a mode is the current one. -/
def Mode.entered : Mode → List Mode
  | .literal => [.literal]
  | .expression => [.expression, .literal]

/-- The scanner stands between two parts of its source, in a mode, and goes on. -/
structure Scanner.Stands (scanner : Scanner) (mode : Mode) (before rest : List Char) : Prop where
  /-- The parts make up the source. -/
  split : scanner.source.toList = before ++ rest
  /-- The cursor counts the bytes of the first part. -/
  cursor : scanner.cursor = byteCount before
  /-- No expression has been opened inside another. -/
  modes : scanner.modes = mode.entered
  /-- No illegal character has been met. -/
  unfailed : scanner.failed = false

/-- The scanner has no more answers. -/
def Scanner.Spent (scanner : Scanner) : Prop :=
  scanner.failed = true ∨ byteCount scanner.source.toList ≤ scanner.cursor

/-- A token is found where it may be, so modes are entered and left in turns. -/
theorem modesAfter_entered {mode : Mode} {previous : Option Char} {text rest : List Char}
    {token : Token} (found : step mode previous text = .token token rest) :
    modesAfter mode.entered token = (mode.after token).entered := by
  cases mode with
  | literal =>
    -- Literal text has no brace that ends an expression.
    have inside := (literalStep_split found).2
    cases token with
    | exprEnd => exact absurd rfl inside
    | _ => rfl
  | expression =>
    -- An expression has no brace that opens another.
    rw [step, expressionStep_eq] at found
    have outside := (wordStep_split found).2
    cases token with
    | exprStart => exact absurd rfl outside
    | _ => rfl

namespace Scanner

variable {scanner : Scanner} {mode : Mode} {before rest : List Char}

theorem start_stands (source : String) : (start source).Stands .literal [] source.toList :=
  ⟨rfl, rfl, rfl, rfl⟩

/-- At the end and after an illegal character there is no answer, and nothing changes. -/
theorem Spent.next? (spent : scanner.Spent) : scanner.next? = some (none, scanner) :=
  if_pos spent

/-- A scanner that stands in front of nothing is spent. -/
theorem Stands.spent (stands : scanner.Stands mode before []) : scanner.Spent := by
  -- All bytes of the source lie before the cursor.
  have whole : byteCount scanner.source.toList = scanner.cursor := by
    rw [stands.split, stands.cursor, List.append_nil]
  exact .inr (Nat.le_of_eq whole)

/-- In front of more text the scanner is asked under the rules of its mode. -/
theorem Stands.next?_eq (stands : scanner.Stands mode before rest) (more : rest ≠ []) :
    scanner.next? = nextIn? mode scanner := by
  -- It is not spent: it has not failed, and at least one byte is left.
  have behind : 0 < byteCount rest :=
    Nat.lt_of_lt_of_le (List.length_pos_iff.mpr more) (length_le_byteCount rest)
  have going : ¬scanner.Spent := by
    rintro (failed | ended)
    · rw [stands.unfailed] at failed
      cases failed
    · rw [stands.split, stands.cursor, byteCount_append] at ended
      omega
  -- The mode on top of the stack is the one that the next token is looked for in.
  have current : scanner.mode = mode := by
    rw [Scanner.mode, stands.modes]
    cases mode <;> rfl
  rw [next?, ← current]
  exact if_neg going

/-- The text behind the cursor. -/
theorem Stands.fromByte? (stands : scanner.Stands mode before rest) :
    fromByte? scanner.cursor scanner.source.toList = some rest := by
  rw [stands.split, stands.cursor, fromByte?_append]

/-- The text in front of the cursor. -/
theorem Stands.upToByte? (stands : scanner.Stands mode before rest) :
    upToByte? scanner.cursor scanner.source.toList = some before := by
  rw [stands.split, stands.cursor, upToByte?_append]

/-- Blanks that are skipped stand in front of the cursor. -/
theorem Stands.skip {blanks behind : List Char} (stands : scanner.Stands mode before rest)
    (blank : rest = blanks ++ behind) :
    (scanner.skip blanks).Stands mode (before ++ blanks) behind where
  split := by rw [Scanner.skip, stands.split, blank, List.append_assoc]
  cursor := by rw [Scanner.skip, stands.cursor, byteCount_append]
  modes := stands.modes
  unfailed := stands.unfailed

/-- A token that is passed stands in front of the cursor. -/
theorem Stands.pass {token : Token} {previous : Option Char} {text behind : List Char}
    (stands : scanner.Stands mode before (token.lexeme ++ behind))
    (found : step mode previous text = .token token behind) :
    (scanner.pass token).Stands (mode.after token) (before ++ token.lexeme) behind where
  split := by rw [Scanner.pass, stands.split, List.append_assoc]
  cursor := by rw [Scanner.pass, stands.cursor, byteCount_append]
  modes := by rw [Scanner.pass, stands.modes, modesAfter_entered found]
  unfailed := stands.unfailed

/-- A scanner that stands somewhere answers to the step there, behind the blanks. -/
theorem Stands.next? (stands : scanner.Stands mode before rest) :
    scanner.next? =
      some ((scanner.skip (blanksOf mode rest)).answerTo (step mode before.getLast? rest)) := by
  by_cases more : rest = []
  · -- Where nothing is left, there are no blanks and no token.
    subst more
    rw [stands.spent.next?]
    cases mode <;> rfl
  · rw [stands.next?_eq more]
    cases mode with
    | literal =>
      rw [nextIn?, nextLiteral?, stands.fromByte?]
      rfl
    | expression =>
      have blank : rest = blanksOf .expression rest ++ rest.dropWhile (· == ' ') :=
        List.takeWhile_append_dropWhile.symm
      -- The scanner first moves over the blanks and is asked for a word there.
      have skipped := stands.skip blank
      rw [nextIn?, nextSpaced?, stands.fromByte?]
      show (scanner.skip (blanksOf .expression rest)).nextWord? = _
      rw [nextWord?, skipped.fromByte?, skipped.upToByte?, step, expressionStep_eq,
        ← List.getLast?_append]
      rfl

end Scanner

/-! ## All answers of a scanner -/

/-- What there is to answer with: the tokens, and then the illegal character if there is one. -/
def Scan.found (source : String) (result : Scan) : List (Except IllegalCharacter Token) :=
  result.tokens.map .ok ++ (result.fault? source).toList.map .error

/-- The first answers of a scanner that has something to answer with, and nothing behind it. -/
def answersFrom (found : List (Except IllegalCharacter Token)) (count : Nat) :
    List Scanner.Answer :=
  (List.range count).map fun number => found[number]?

theorem answersFrom_cons (first : Except IllegalCharacter Token)
    (others : List (Except IllegalCharacter Token)) (count : Nat) :
    answersFrom (first :: others) (count + 1) = some first :: answersFrom others count := by
  rw [answersFrom, List.range_succ_eq_map, List.map_cons, List.map_map]
  rfl

theorem answersFrom_nil (count : Nat) :
    answersFrom [] (count + 1) = none :: answersFrom [] count := by
  rw [answersFrom, List.range_succ_eq_map, List.map_cons, List.map_map]
  rfl

/-- Every genuine token is spelled with at least one character. -/
theorem Token.Genuine.lexeme_ne_nil {token : Token} (genuine : token.Genuine) :
    token.lexeme ≠ [] := by
  -- An escape is known, and a path that has been found is not empty.
  cases token with
  | escaped raw =>
    obtain rfl : raw = "\\$" := genuine
    decide
  | path spelling =>
    obtain ⟨text, located⟩ := genuine
    exact List.length_pos_iff.mp (path?_length_pos located)
  | keyword word => cases word <;> exact List.cons_ne_nil _ _
  | _ => exact List.cons_ne_nil _ _

namespace Scanner

variable {scanner : Scanner} {mode : Mode} {before rest : List Char}

/-- The first answer is followed by those of the scanner that is left. -/
theorem answers?_of_next? {answer : Answer} {later last : Scanner} {count : Nat}
    {others : List Answer} (next : scanner.next? = some (answer, later))
    (rest : later.answers? count = some (others, last)) :
    scanner.answers? (count + 1) = some (answer :: others, last) := by
  -- The scanner that the first answer leaves is asked for the others.
  rw [answers?, next]
  show (later.answers? count >>= fun _ => _) = _
  rw [rest]
  rfl

/-- A spent scanner goes on giving nothing. -/
theorem Spent.answers? (spent : scanner.Spent) (count : Nat) :
    scanner.answers? count = some (answersFrom [] count, scanner) := by
  induction count with
  | zero => rfl
  | succ count ih =>
    -- An answer leaves the scanner as it is.
    rw [answersFrom_nil]
    exact answers?_of_next? spent.next? ih

/-- The cursor is where the bytes that are left begin. -/
theorem Stands.cursor_eq (stands : scanner.Stands mode before rest) :
    byteCount scanner.source.toList - byteCount rest = scanner.cursor := by
  rw [stands.split, stands.cursor, byteCount_append, Nat.add_sub_cancel_right]

/-- A scanner answers with what a scan from its place finds, one after the other. -/
theorem Stands.answers? (stands : scanner.Stands mode before rest) (count : Nat) :
    ∃ last, scanner.answers? count = some
      (answersFrom ((scanFrom mode before.getLast? rest).found scanner.source) count, last) := by
  -- Each answer is that to the first step of the scan, and the others are those to its rest.
  induction count generalizing scanner mode before rest with
  | zero => exact ⟨scanner, rfl⟩
  | succ count ih =>
    have next := stands.next?
    have split := step_split mode before.getLast? rest
    rw [scanFrom_eq]
    cases stepped : step mode before.getLast? rest with
    | finished =>
      -- Behind the blanks nothing is left, and so there are no more answers.
      rw [stepped] at next split
      have spent := (stands.skip split).spent
      exact ⟨_, (answersFrom_nil count) ▸ answers?_of_next? next (spent.answers? count)⟩
    | token token behind =>
      rw [stepped] at next split
      have later := (stands.skip split).pass stepped
      obtain ⟨last, others⟩ := ih later
      -- What stands in front of the next token is the last character of this one.
      have previous : (before ++ blanksOf mode rest ++ token.lexeme).getLast? =
          token.lexeme.getLast? := by
        have filled := (step_genuine stepped).lexeme_ne_nil
        rw [List.getLast?_append, List.getLast?_eq_some_getLast filled]
        rfl
      rw [previous] at others
      exact ⟨last, (answersFrom_cons _ _ count) ▸ answers?_of_next? next others⟩
    | illegal behind =>
      rw [stepped] at next split
      obtain ⟨character, later, rfl⟩ := step_eq_illegal stepped
      -- The scan counts the offset from the end of the source, the scanner from its start.
      have offset := (stands.skip split).cursor_eq
      have spent : Spent { scanner.skip (blanksOf mode rest) with failed := true } := .inl rfl
      have only : (Scan.mk [] (some (character :: later))).found scanner.source =
          [.error ⟨character, (scanner.skip (blanksOf mode rest)).cursor⟩] := by
        rw [← offset]
        rfl
      dsimp only
      rw [only, answersFrom_cons]
      exact ⟨_, answers?_of_next? next (spent.answers? count)⟩

/-- A scanner of a source that stands somewhere in it or is spent. -/
structure Placed (source : String) (scanner : Scanner) : Prop where
  /-- The source stays the same. -/
  source : scanner.source = source
  /-- There is a place, unless there are no more answers. -/
  place : (∃ mode before rest, scanner.Stands mode before rest) ∨ scanner.Spent

theorem start_placed (source : String) : (start source).Placed source :=
  ⟨rfl, .inl ⟨_, _, _, start_stands source⟩⟩

/-- An answer leaves the scanner at a place, which a token moves forward. -/
theorem Placed.next? {source : String} {answer : Answer} {later : Scanner}
    (placed : scanner.Placed source) (next : scanner.next? = some (answer, later)) :
    later.Placed source ∧ ∀ token, answer = some (.ok token) →
      scanner.cursor < later.cursor ∧ later.cursor ≤ byteCount source.toList := by
  obtain ⟨rfl, ⟨mode, before, rest, stands⟩ | spent⟩ := placed
  · have split := step_split mode before.getLast? rest
    rw [stands.next?] at next
    cases stepped : step mode before.getLast? rest with
    | finished =>
      rw [stepped] at next split
      cases next
      exact ⟨⟨rfl, .inr (stands.skip split).spent⟩, nofun⟩
    | token token behind =>
      rw [stepped] at next split
      cases next
      have moved := (stands.skip split).pass stepped
      refine ⟨⟨rfl, .inl ⟨_, _, _, moved⟩⟩, fun _ _ => ?_⟩
      -- The lexeme has at least one byte, and it lies within the source.
      have filled := List.length_pos_iff.mpr (step_genuine stepped).lexeme_ne_nil
      have bytes := length_le_byteCount token.lexeme
      have whole := congrArg byteCount moved.split
      have source : ((scanner.skip (blanksOf mode rest)).pass token).source = scanner.source := rfl
      rw [moved.cursor, stands.cursor]
      rw [source] at whole
      simp only [byteCount_append] at whole ⊢
      omega
    | illegal behind =>
      -- A scanner that has met an illegal character is spent.
      obtain ⟨character, others, rfl⟩ := step_eq_illegal stepped
      rw [stepped] at next
      cases next
      exact ⟨⟨rfl, .inr (.inl rfl)⟩, nofun⟩
  · -- A spent scanner has no token to answer with.
    rw [spent.next?] at next
    cases next
    exact ⟨⟨rfl, .inr spent⟩, nofun⟩

/-- A scanner stays at a place however often it is asked. -/
theorem Placed.answers? {source : String} {count : Nat} {answers : List Answer} {last : Scanner}
    (placed : scanner.Placed source) (asked : scanner.answers? count = some (answers, last)) :
    last.Placed source := by
  -- Each answer leaves the scanner at a place, from which it is asked on.
  induction count generalizing scanner answers with
  | zero =>
    cases asked
    exact placed
  | succ count ih =>
    rw [Scanner.answers?, Option.bind_eq_bind, Option.bind_eq_some_iff] at asked
    obtain ⟨⟨answer, later⟩, next, asked⟩ := asked
    rw [Option.bind_eq_bind, Option.bind_eq_some_iff] at asked
    obtain ⟨⟨others, final⟩, asked, same⟩ := asked
    cases same
    exact ih (placed.next? next).1 asked

end Scanner

/-- A source without tokens has an illegal character where the scan is stuck. -/
theorem tokens_eq_error_iff {source : String} {fault : IllegalCharacter} :
    tokens source = .error fault ↔
      ∃ later, (scan source).stuck = some (fault.character :: later) ∧
        fault.offset = byteCount source.toList - byteCount (fault.character :: later) := by
  -- A scan without a character that it is stuck at has its tokens as the result.
  obtain ⟨illegal, offset⟩ := fault
  unfold tokens Scan.fault?
  generalize scan source = result
  obtain ⟨found, _ | _ | ⟨character, rest⟩⟩ := result
  · simp
  · simp
  · simp only [Except.error.injEq, IllegalCharacter.mk.injEq, Option.some.injEq, List.cons.injEq]
    -- The character and its offset are all that a fault is made of.
    constructor
    · rintro ⟨rfl, rfl⟩
      exact ⟨rest, ⟨rfl, rfl⟩, rfl⟩
    · rintro ⟨later, ⟨rfl, rfl⟩, rfl⟩
      exact ⟨rfl, rfl⟩

/-- Scanning loses nothing.  A scanner of a source answers with its tokens, then with the illegal
character if there is one, and from then on with nothing.  The tokens spell the whole source out, or
all of it in front of the illegal character, whose offset counts the bytes up to there.  Only dollar
signs are escaped.  Every token moves the cursor forward, so there are no more tokens than bytes. -/
theorem scanning_loses_nothing (source : String) :
    (∀ count, ∃ last, (Scanner.start source).answers? count =
        some (answersFrom ((scan source).found source) count, last)) ∧
      (∀ found, tokens source = .ok found →
        (scan source).found source = found.map .ok ∧ SpelledOut .literal found source.toList) ∧
      (∀ fault, tokens source = .error fault → ∃ found before after,
        (scan source).found source = found.map .ok ++ [.error fault] ∧
          source.toList = before ++ fault.character :: after ∧
          byteCount before = fault.offset ∧ SpelledOut .literal found before) ∧
      (∀ raw, Token.escaped raw ∈ (scan source).tokens → raw = "\\$") ∧
      (∀ count answers scanner token later,
        (Scanner.start source).answers? count = some (answers, scanner) →
          scanner.next? = some (some (.ok token), later) →
            scanner.cursor < later.cursor ∧ later.cursor ≤ byteCount source.toList) ∧
      (scan source).tokens.length ≤ byteCount source.toList := by
  obtain ⟨spelled, split, spells⟩ := scanFrom_spells .literal none source.toList
  refine ⟨(Scanner.start_stands source).answers?, ?_, ?_, ?_, ?_, ?_⟩
  · -- A scan without a fault reaches the end of the source.
    intro found complete
    have scanned : scanFrom .literal none source.toList = ⟨found, none⟩ :=
      tokens_eq_ok_iff.mp complete
    rw [scanned] at split spells
    refine ⟨?_, ?_⟩
    · rw [scan, scanned, Scan.found]
      exact List.append_nil _
    · rw [split]
      simpa using spells
  · -- A scan with a fault is stuck in front of the character that it reports.
    intro fault failed
    obtain ⟨later, stuck, offset⟩ := tokens_eq_error_iff.mp failed
    have reported : (scan source).fault? source = some fault := by
      rw [Scan.fault?, stuck]
      show some (IllegalCharacter.mk fault.character _) = some fault
      rw [← offset]
    change (scanFrom .literal none source.toList).stuck = _ at stuck
    rw [stuck] at split
    refine ⟨(scan source).tokens, spelled, later, ?_, split, ?_, spells⟩
    · rw [Scan.found, reported]
      rfl
    · rw [offset, split, Option.getD_some, byteCount_append, Nat.add_sub_cancel_right]
  · -- Only a dollar sign can be escaped.
    exact fun raw member => scanFrom_genuine .literal none source.toList _ member
  · -- A token has at least one byte, which the cursor passes.
    intro count answers scanner token later asked next
    exact (((Scanner.start_placed source).answers? asked).next? next).2 token rfl
  · -- Every token takes at least one character.
    exact Nat.le_trans (scanFrom_length _ _ _) (length_le_byteCount _)

/-- Characters of several bytes, an escape, a shortcut and spaces up to an illegal character. -/
theorem scanning_loses_nothing_broken :
    tokens "é\\$$data.x $\x7b data.é  ² \x7d" = .error ⟨'²', 24⟩ ∧
      (scan "é\\$$data.x $\x7b data.é  ² \x7d").tokens =
        [.text 'é', .escaped "\\$", .shortcut "data.x", .text ' ', .exprStart, .path "data.é"] ∧
      ∃ found before after,
        (scan "é\\$$data.x $\x7b data.é  ² \x7d").found "é\\$$data.x $\x7b data.é  ² \x7d" =
            found.map .ok ++ [.error ⟨'²', 24⟩] ∧
          "é\\$$data.x $\x7b data.é  ² \x7d".toList = before ++ '²' :: after ∧
          byteCount before = 24 ∧ SpelledOut .literal found before := by
  -- Letters beyond ASCII have more than one byte, so the offset is not the number of
  -- characters.
  have failed : tokens "é\\$$data.x $\x7b data.é  ² \x7d" = .error ⟨'²', 24⟩ :=
    tokens_eq_error_iff.mpr ⟨[' ', '\x7d'], by decide +kernel, by decide +kernel⟩
  refine ⟨failed, by decide +kernel, ?_⟩
  exact (scanning_loses_nothing _).2.2.1 ⟨'²', 24⟩ failed

end PayloadTemplate.Template
