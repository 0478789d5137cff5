import PayloadTemplate.Proofs.Template.Turns
import PayloadTemplate.Render.Engine

/-!
Spaces inside expressions.  Between two words there may be one or any larger number of them, and
directly behind the opening brace and in front of the closing one any number at all: the tokens stay
the same, and so does everything that is rendered.
-/

namespace PayloadTemplate.Template

open Text

/-! ## What follows a token -/

/-- Two texts behind a path end it alike: they begin with the same character, and where the path
does not go on into the one it does not go on into the other. -/
structure Alike (after other : List Char) : Prop where
  /-- The first characters are the same, or both texts are empty. -/
  head : other.head? = after.head?
  /-- No segment goes on. -/
  stops : segmentRun after = [] → segmentRun other = []

/-- Whether a segment goes on is seen from the first character. -/
theorem startsSegment_congr {first second : List Char} (same : first.head? = second.head?) :
    startsSegment first = startsSegment second := by
  cases first <;> cases second <;> simp_all [startsSegment]

/-- A run of segments that ends in front of a text also ends in front of one that is alike. -/
theorem segmentRun_of_alike {run after other : List Char} (alike : Alike after other)
    (found : segmentRun (run ++ after) = run) : segmentRun (run ++ other) = run := by
  induction run with
  | nil => exact alike.stops found
  | cons character rest ih =>
    have heads : (rest ++ other).head? = (rest ++ after).head? := by
      rw [List.head?_append, List.head?_append, alike.head]
    rw [List.cons_append, segmentRun] at found ⊢
    -- A dot is taken for the character behind it, which is the same.
    rw [startsSegment_congr heads]
    split at found
    · rename_i taken
      rw [if_pos taken, ih (List.cons.inj found).2]
    · cases found

/-- Dotted segments that end in front of a text also end in front of one that is alike. -/
theorem dottedSegments_of_alike {dotted after other : List Char} (alike : Alike after other)
    (found : dottedSegments (dotted ++ after) = dotted) :
    dottedSegments (dotted ++ other) = dotted := by
  -- Whether a dot follows the root is seen from the first character, which is the same.
  have eq_if : ∀ text : List Char,
      dottedSegments text = if text.head? = some '.' then segmentRun text else [] := by
    intro text
    cases text with
    | nil => rfl
    | cons character rest =>
      by_cases dot : character = '.'
      · subst dot
        rfl
      · simp [dottedSegments, dot]
  have heads : (dotted ++ other).head? = (dotted ++ after).head? := by
    rw [List.head?_append, List.head?_append, alike.head]
  rw [eq_if] at found ⊢
  rw [heads]
  split at found
  · -- Behind a dot the segments end where the texts still agree.
    rename_i dot
    rw [if_pos dot]
    exact segmentRun_of_alike alike found
  · rename_i noDot
    rw [if_neg noDot]
    exact found

/-- A path that ends in front of a text also ends in front of one that is alike. -/
theorem path?_of_alike {path after other : List Char} (alike : Alike after other)
    (found : path? (path ++ after) = some path) : path? (path ++ other) = some path := by
  have located := found
  simp only [path?, Option.map_eq_some_iff] at located
  obtain ⟨root, chosen, spelled⟩ := located
  -- The path is a root with the dotted segments behind it.
  have member := List.mem_of_find?_eq_some chosen
  obtain ⟨dotted, rfl⟩ : ∃ dotted, path = root ++ dotted := ⟨_, spelled.symm⟩
  have ends : dottedSegments (dotted ++ after) = dotted := by
    rw [List.append_assoc, List.drop_left] at spelled
    exact List.append_cancel_left spelled
  have again := dottedSegments_of_alike alike ends
  -- No root begins like another one, so the search stops at the same root.
  simp only [pathRoots, List.mem_cons, List.not_mem_nil, or_false] at member
  rcases member with rfl | rfl | rfl | rfl
  all_goals simp [path?, pathRoots, List.find?, List.isPrefixOf, again]

/-- A path that is found at the start of a text is the longest one there. -/
theorem wordStep_eq_path {previous : Option Char} {text rest : List Char} {spelling : String}
    (found : wordStep previous text = .token (.path spelling) rest) :
    path? text = some spelling.toList := by
  -- Of all that a step inside an expression may find, only a path has been looked for as one.
  unfold wordStep at found
  repeat' split at found
  all_goals cases found
  rename_i located
  rw [located, String.toList_ofList]

/-- An index that is found has no word character next to it. -/
theorem wordStep_eq_index {previous : Option Char} {text rest : List Char} {name : Char}
    (found : wordStep previous text = .token (.index name) rest) :
    isWordChar name = true ∧ isWordAt previous = false ∧ isWordAt rest.head? = false := by
  -- A lone character is an index only between two word boundaries.
  unfold wordStep at found
  repeat' split at found
  all_goals cases found
  rename_i lone
  simpa [isLoneWordChar, and_assoc] using lone

/-- What follows a word in another text: the word ends there, or the texts are alike. -/
def EndsWord (after other : List Char) : Prop :=
  Separated other ∨ Alike after other

/-- A word of an expression is found again behind another character and in front of another text. -/
theorem wordStep_again {previous before : Option Char} {token : Token} {after other : List Char}
    (found : wordStep previous (token.lexeme ++ after) = .token token after)
    (apart : isWordAt previous = false → isWordAt before = false)
    (boundary : EndsWord after other) :
    wordStep before (token.lexeme ++ other) = .token token other := by
  -- Each kind of token has its own test for where it ends.
  have finds := wordStep_finds found
  cases token with
  | path spelling =>
    have located := wordStep_eq_path found
    rcases boundary with separated | alike
    · exact wordStep_path (path?_append located separated.not_continues)
    · exact wordStep_path (path?_of_alike alike located)
  | keyword word => exact wordStep_keyword before word other
  | index name =>
    -- The lone character needs a boundary in front of it and one behind it.
    obtain ⟨word, lone, stops⟩ := wordStep_eq_index found
    have ends : isWordAt other.head? = false := by
      rcases boundary with separated | alike
      · exact separated.not_word
      · rw [alike.head, stops]
    exact wordStep_index word (apart lone) ends
  | exprEnd => rfl
  | _ => simp [Mode.Finds, Token.isWord] at finds

/-- No path goes on into a sign. -/
theorem AtSign.not_continues {text : List Char} (sign : AtSign text) :
    continuesPath text = false := by
  -- Nothing, a dollar sign or a backslash: none of them is part of a path.
  cases text with
  | nil => rfl
  | cons character rest =>
    rcases sign with none | dollar | escape
    · cases none
    · cases dollar
      show (isSegmentChar '$' || '$' == '.') = false
      decide +kernel
    · cases escape
      show (isSegmentChar '\\' || '\\' == '.') = false
      decide +kernel

/-- Texts that first differ behind a sign are alike. -/
theorem alike_of_atSign {between first second : List Char} (sign : AtSign first)
    (same : first.head? = second.head?) : Alike (between ++ first) (between ++ second) := by
  -- If the text in front of the signs is empty, neither sign continues a path; else the first
  -- character is of that text.
  have heads : ∀ text : List Char, (text ++ second).head? = (text ++ first).head? := by
    intro text
    rw [List.head?_append, List.head?_append, same]
  refine ⟨heads between, fun stopped => ?_⟩
  cases between with
  | nil =>
    have sign : AtSign second := by rwa [AtSign, ← same]
    exact segmentRun_of_not_continues sign.not_continues
  | cons character rest =>
    rw [List.cons_append, segmentRun] at stopped ⊢
    rw [startsSegment_congr (heads rest)]
    split at stopped
    · cases stopped
    · rename_i refused
      exact if_neg refused

/-- A dollar sign that opens no expression is followed by the path of a shortcut or stands for
itself. -/
theorem literalStep_dollar {rest : List Char} (noBrace : rest.head? ≠ some '{') :
    literalStep ('$' :: rest) =
      match path? rest with
      | some path => .token (.shortcut (String.ofList path)) (rest.drop path.length)
      | none => .token (.text '$') rest := by
  unfold literalStep
  split
  · rename_i empty
    cases empty
  · -- A brace would have opened an expression.
    rename_i opened
    cases opened
    exact absurd rfl noBrace
  · rename_i escape
    cases escape
  · -- The sign stands in front of a path or for itself.
    rename_i taken
    cases taken
    rfl
  · rename_i other same
    cases same
    exact absurd rfl other

/-- A shortcut is a path behind a dollar sign. -/
theorem literalStep_shortcut_iff {spelling : String} {after : List Char} :
    literalStep ('$' :: (spelling.toList ++ after)) = .token (.shortcut spelling) after ↔
      path? (spelling.toList ++ after) = some spelling.toList := by
  constructor
  · -- Behind a brace an expression would have been opened instead.
    intro found
    by_cases brace : (spelling.toList ++ after).head? = some '{'
    · obtain ⟨later, opened⟩ := List.head?_eq_some_iff.mp brace
      rw [opened] at found
      cases found
    · rw [literalStep_dollar brace] at found
      split at found
      · rename_i path located
        rw [Step.token.injEq, Token.shortcut.injEq] at found
        rw [located, ← found.1, String.toList_ofList]
      · cases found
  · -- A path begins with a word character, which is no brace.
    intro located
    obtain ⟨character, rest, spelled, word⟩ := path?_begins located
    have noBrace : (spelling.toList ++ after).head? ≠ some '{' := by
      rw [spelled]
      rintro ⟨⟩
      exact ne_of_isWordChar word separators_not_word.2.1 rfl
    rw [literalStep_dollar noBrace, located]
    simp

/-- A token of literal text is found again where the text behind it first changes at a sign. -/
theorem literalStep_again {token : Token} {between first second : List Char}
    (found : literalStep (token.lexeme ++ (between ++ first)) = .token token (between ++ first))
    (sign : AtSign first) (same : first.head? = second.head?) :
    literalStep (token.lexeme ++ (between ++ second)) = .token token (between ++ second) := by
  -- What stands directly behind the token is the same in both texts, up to a sign that ends it.
  have finds := literalStep_finds found
  cases token with
  | text character =>
    obtain ⟨_, plain⟩ := literalStep_eq_text_iff.mp found
    exact literalStep_eq_text_iff.mpr ⟨rfl, (plain_append_iff sign same).mp plain⟩
  | escaped raw =>
    obtain rfl : raw = "\\$" := finds
    rfl
  | shortcut spelling =>
    have located := literalStep_shortcut_iff.mp found
    exact literalStep_shortcut_iff.mpr (path?_of_alike (alike_of_atSign sign same) located)
  | exprStart => rfl
  | _ => simp [Mode.Finds, Token.isLiteral] at finds

/-! ## Texts with the same tokens -/

/-- Where the next token of a source stands. -/
inductive Place where
  /-- In literal text, where spaces stand for themselves. -/
  | outside
  /-- Directly behind the brace that opens an expression. -/
  | opened
  /-- Behind a word of an expression. -/
  | behindWord
  deriving DecidableEq, Repr

namespace Place

/-- The rules that apply at a place. -/
def mode : Place → Mode
  | .outside => .literal
  | .opened | .behindWord => .expression

/-- The place behind a token. -/
def behind : Token → Place
  | .exprStart => .opened
  | .path _ | .keyword _ | .index _ => .behindWord
  | _ => .outside

/-- Whether so many spaces in front of a token may be replaced by so many others.  Between two words
they may be kept, or else there has to be one at least. -/
def MayReplace : Place → Token → Nat → Nat → Prop
  | .outside, _, spaces, others => spaces = 0 ∧ others = 0
  | .opened, _, _, _ => True
  | .behindWord, .exprEnd, _, _ => True
  | .behindWord, _, spaces, others => others = spaces ∨ 0 < others

/-- Behind a word stands what follows words. -/
theorem behind_of_isWord {token : Token} (word : token.isWord = true) :
    behind token = .behindWord := by
  -- Paths, keywords and index names are the words.
  cases token with
  | path _ | keyword _ | index _ => rfl
  | _ => cases word

/-- Between two words the spaces are kept, or there is one at least. -/
theorem MayReplace.betweenWords {token : Token} {count other : Nat}
    (allowed : behindWord.MayReplace token count other) (word : token.isWord = true) :
    other = count ∨ 0 < other := by
  -- Between words there must be a blank, wherever there was one.
  cases token with
  | path _ | keyword _ | index _ => exact allowed
  | _ => cases word

/-- The rules behind a token that is found are those of the place there. -/
theorem mode_behind {place : Place} {token : Token} (finds : place.mode.Finds token) :
    place.mode.after token = (behind token).mode := by
  -- In each mode only some tokens are found, and each of them leads on in its own way.
  cases place with
  | outside => cases token <;> first | rfl | simp [mode, Mode.Finds, Token.isLiteral] at finds
  | opened => cases token <;> first | rfl | simp [mode, Mode.Finds, Token.isWord] at finds
  | behindWord => cases token <;> first | rfl | simp [mode, Mode.Finds, Token.isWord] at finds

end Place

/-- So many spaces. -/
def spaces (count : Nat) : List Char :=
  List.replicate count ' '

/-- Two texts that spell the same tokens, the second one with other spaces wherever they may be
replaced: between two words of an expression, directly behind its opening brace, directly in front
of its closing brace, and where the text ends inside it. -/
inductive Respaced : Place → List Token → List Char → List Char → Prop where
  /-- Both texts end in literal text. -/
  | done : Respaced .outside [] [] []
  /-- Both texts end inside an expression. -/
  | unclosed {place : Place} (inside : place.mode = .expression) (count other : Nat) :
      Respaced place [] (spaces count) (spaces other)
  /-- A token with the spaces in front of it. -/
  | token {place : Place} {token : Token} {tokens : List Token} {text changed : List Char}
      {count other : Nat} (allowed : place.MayReplace token count other)
      (later : Respaced (.behind token) tokens text changed) :
      Respaced place (token :: tokens) (spaces count ++ (token.lexeme ++ text))
        (spaces other ++ (token.lexeme ++ changed))

/-! ## The tokens stay the same -/

/-- The first character behind some spaces, if there are any, is a space. -/
theorem head?_spaces_append {count : Nat} (several : 0 < count) (text : List Char) :
    (spaces count ++ text).head? = some ' ' := by
  obtain ⟨fewer, rfl⟩ := Nat.exists_eq_add_one.mpr several
  rfl

/-- A token of an expression does not begin with a space. -/
theorem Mode.Finds.solid {token : Token} (finds : Mode.expression.Finds token)
    (genuine : token.Genuine) (text : List Char) : (token.lexeme ++ text).head? ≠ some ' ' := by
  -- A word begins with a word character, and what else is found is the closing brace.
  rcases finds with word | rfl
  · obtain ⟨character, rest, spelled, letter⟩ := genuine.begins word
    rw [spelled]
    rintro ⟨⟩
    exact ne_of_isWordChar letter separators_not_word.1 rfl
  · exact nofun

/-- In an expression the token behind some spaces is found with the last of them in front of it. -/
theorem expressionStep_spaces {text : List Char} (solid : text.head? ≠ some ' ') (count : Nat)
    (previous : Option Char) :
    expressionStep previous (spaces count ++ text) =
      wordStep (if count = 0 then previous else some ' ') text := by
  induction count generalizing previous with
  | zero => exact expressionStep_of_solid solid previous
  | succ count ih =>
    -- The first space is skipped, and what stands in front of the others is a space.
    show expressionStep (some ' ') (spaces count ++ text) = wordStep (some ' ') text
    rw [ih, ite_self]

/-- Where words follow each other, the second text ends the first of them or is alike. -/
theorem Respaced.endsWord {tokens : List Token} {previous : Option Char} {text changed : List Char}
    (respaced : Respaced .behindWord tokens text changed)
    (scans : Scans .expression previous text tokens) : EndsWord text changed := by
  cases respaced with
  | unclosed inside count other =>
    left
    cases other with
    | zero => exact .inl rfl
    | succ _ => exact .inr (.inl rfl)
  | @token _ token tokens text changed count other allowed later =>
    obtain ⟨rest, stepped, _⟩ := scans_cons_iff.mp scans
    rcases Nat.eq_zero_or_pos other with rfl | several
    · rcases step_finds stepped with word | rfl
      · -- Words that follow each other without a space have done so before.
        obtain rfl : 0 = count := (allowed.betweenWords word).resolve_right (Nat.lt_irrefl 0)
        obtain ⟨character, others, spelled, letter⟩ := (step_genuine stepped).begins word
        right
        show Alike (token.lexeme ++ text) (token.lexeme ++ changed)
        rw [spelled]
        refine ⟨rfl, fun stopped => ?_⟩
        -- A path would have gone on with the first letter of the word.
        simp [segmentRun, isSegmentChar, letter] at stopped
      · exact .inl (.inr (.inr rfl))
    · exact .inl (.inr (.inl (head?_spaces_append several _)))

/-- Two texts that first differ behind a sign, or not at all. -/
def DifferBehindSign (text changed : List Char) : Prop :=
  ∃ between first second, text = between ++ first ∧ changed = between ++ second ∧
    AtSign first ∧ first.head? = second.head?

/-- The same characters may stand in front of both texts. -/
theorem DifferBehindSign.append {text changed : List Char} (differ : DifferBehindSign text changed)
    (front : List Char) : DifferBehindSign (front ++ text) (front ++ changed) := by
  -- The difference stays where it is, only further behind.
  obtain ⟨between, first, second, rfl, rfl, sign, same⟩ := differ
  exact ⟨front ++ between, first, second, (List.append_assoc ..).symm, (List.append_assoc ..).symm,
    sign, same⟩

/-- Outside expressions, texts with other spaces first differ behind a sign. -/
theorem Respaced.differBehindSign {tokens : List Token} {text changed : List Char}
    (respaced : Respaced .outside tokens text changed) (turns : InTurns .literal tokens) :
    DifferBehindSign text changed := by
  induction tokens generalizing text changed with
  | nil =>
    cases respaced with
    | done => exact ⟨[], [], [], rfl, rfl, .inl rfl, rfl⟩
    | unclosed inside => cases inside
  | cons token rest ih =>
    cases respaced with
    | token allowed later =>
      obtain ⟨rfl, rfl⟩ := allowed
      obtain ⟨finds, turns⟩ := turns
      cases token with
      | exprStart => exact ⟨[], _, _, rfl, rfl, .inr (.inl rfl), rfl⟩
      -- Up to the next expression the texts are the same.
      | text _ | escaped _ | shortcut _ => exact (ih later turns).append _
      | _ => simp [Mode.Finds, Token.isLiteral] at finds

section Steps

variable {place : Place} {token : Token} {tokens : List Token} {text changed rest : List Char}
  {previous : Option Char} {count other : Nat}

/-- A token of literal text is found again in front of other spaces. -/
theorem Respaced.literal_again (later : Respaced (.behind token) tokens text changed)
    (turns : InTurns (Mode.literal.after token) tokens)
    (found : literalStep (token.lexeme ++ text) = .token token text) :
    literalStep (token.lexeme ++ changed) = .token token changed := by
  -- Up to the next sign both texts are the same, and the token ends before it.
  have finds := literalStep_finds found
  cases token with
  | exprStart => rfl
  | text _ | escaped _ | shortcut _ =>
    obtain ⟨_, _, _, rfl, rfl, sign, same⟩ := later.differBehindSign turns
    exact literalStep_again found sign same
  | _ => simp [Mode.Finds, Token.isLiteral] at finds

/-- Where nothing but a space or the opening brace has to keep two words apart, other spaces keep
them apart as well. -/
theorem Place.MayReplace.apart (allowed : place.MayReplace token count other)
    (inside : place.mode = .expression) (word : token.isWord = true)
    (opened : place = .opened → isWordAt previous = false)
    (lone : isWordAt (if count = 0 then previous else some ' ') = false) :
    isWordAt (if other = 0 then previous else some ' ') = false := by
  by_cases none : other = 0
  · rw [if_pos none]
    cases place with
    | outside => cases inside
    | opened => exact opened rfl
    | behindWord =>
      -- Without a space now, there has been none before.
      have kept := allowed.betweenWords word
      have same : count = 0 := by omega
      rwa [if_pos same] at lone
  · rw [if_neg none]
    exact separators_not_word.1

/-- A token of an expression is found again behind other spaces and in front of others. -/
theorem Respaced.expression_again (allowed : place.MayReplace token count other)
    (inside : place.mode = .expression) (later : Respaced (.behind token) tokens text changed)
    (opened : place = .opened → isWordAt previous = false)
    (found : expressionStep previous (spaces count ++ (token.lexeme ++ text)) = .token token rest)
    (scans : Scans (Mode.expression.after token) token.lexeme.getLast? rest tokens) :
    rest = text ∧
      expressionStep previous (spaces other ++ (token.lexeme ++ changed)) =
        .token token changed := by
  -- The blanks are skipped first, so that only the token and what follows it matter.
  have stepped : step .expression previous (spaces count ++ (token.lexeme ++ text)) =
      .token token rest := found
  have finds := step_finds stepped
  have genuine := step_genuine stepped
  rw [expressionStep_spaces (finds.solid genuine text)] at found
  obtain rfl : text = rest := List.append_cancel_left (wordStep_split found).1
  refine ⟨rfl, ?_⟩
  rw [expressionStep_spaces (finds.solid genuine changed)]
  rcases finds with word | rfl
  · -- Behind a word, the expression goes on.
    rw [Place.behind_of_isWord word] at later
    rw [after_of_isWord word] at scans
    exact wordStep_again found (allowed.apart inside word opened) (later.endsWord scans)
  · rfl

end Steps

/-- Other spaces leave the tokens as they are. -/
theorem Respaced.scans {place : Place} {tokens : List Token} {previous : Option Char}
    {text changed : List Char} (respaced : Respaced place tokens text changed)
    (opened : place = .opened → isWordAt previous = false)
    (scans : Scans place.mode previous text tokens) : Scans place.mode previous changed tokens := by
  -- The same tokens follow, so the places and what stands in front of them are the same too.
  induction respaced generalizing previous with
  | done => exact scans
  | unclosed inside count other =>
    rw [inside, scans_nil_iff]
    show expressionStep previous (spaces other) = .finished
    rw [← List.append_nil (spaces other), expressionStep_spaces (by simp)]
    rfl
  | @token place token tokens text changed count other allowed later ih =>
    obtain ⟨rest, stepped, behind⟩ := scans_cons_iff.mp scans
    have finds := step_finds stepped
    have again : rest = text ∧
        step place.mode previous (spaces other ++ (token.lexeme ++ changed)) =
          .token token changed := by
      cases place with
      | outside =>
        obtain ⟨rfl, rfl⟩ := allowed
        obtain rfl : text = rest := List.append_cancel_left (literalStep_split stepped).1
        exact ⟨rfl, later.literal_again behind.inTurns stepped⟩
      | opened => exact Respaced.expression_again allowed rfl later opened stepped behind
      | behindWord => exact Respaced.expression_again allowed rfl later opened stepped behind
    -- From there both scans go on in the same mode.
    obtain ⟨rfl, again⟩ := again
    refine scans_cons_iff.mpr ⟨changed, again, ?_⟩
    rw [Place.mode_behind finds] at behind ⊢
    refine ih (fun opens => ?_) behind
    -- Only an opening brace leads to where an expression is opened.
    cases token with
    | exprStart => exact separators_not_word.2.1
    | _ => cases opens

/-- Spaces may be left as they are. -/
theorem Place.mayReplace_self {place : Place} (token : Token) {count : Nat}
    (blank : place.mode = .literal → count = 0) : place.MayReplace token count count := by
  -- Outside of expressions there are no blanks to replace.
  cases place with
  | outside => exact ⟨blank rfl, blank rfl⟩
  | opened => trivial
  | behindWord =>
    cases token with
    | exprEnd => trivial
    | _ => exact .inl rfl

/-- What may stand in front of a token are spaces, and in literal text there are none. -/
theorem blanksOf_eq_spaces (mode : Mode) (text : List Char) :
    ∃ count, blanksOf mode text = spaces count ∧ (mode = .literal → count = 0) := by
  -- All that is skipped are blanks, and outside of expressions nothing is skipped.
  cases mode with
  | literal => exact ⟨0, rfl, fun _ => rfl⟩
  | expression =>
    refine ⟨(blanksOf .expression text).length, ?_, nofun⟩
    refine List.eq_replicate_iff.mpr ⟨rfl, fun character member => ?_⟩
    have blank : text.takeWhile (· == ' ') |>.all (· == ' ') := List.all_takeWhile
    exact beq_iff_eq.mp (List.all_eq_true.mp blank character member)

/-- A text is one with the spaces that it has. -/
theorem Respaced.refl {place : Place} {tokens : List Token} {previous : Option Char}
    {text : List Char} (scans : Scans place.mode previous text tokens) :
    Respaced place tokens text text := by
  -- The text is taken apart as it is scanned, into blanks and tokens.
  induction tokens generalizing place previous text with
  | nil =>
    have split := step_split place.mode previous text
    rw [scans_nil_iff.mp scans] at split
    obtain ⟨count, blanks, blank⟩ := blanksOf_eq_spaces place.mode text
    rw [split, List.append_nil, blanks]
    cases place with
    | outside =>
      rw [blank rfl]
      exact .done
    | opened | behindWord => exact .unclosed rfl count count
  | cons token tokens ih =>
    -- The blanks in front of a token may be replaced by as many blanks.
    obtain ⟨rest, stepped, later⟩ := scans_cons_iff.mp scans
    have split := step_split place.mode previous text
    rw [stepped] at split
    obtain ⟨count, blanks, blank⟩ := blanksOf_eq_spaces place.mode text
    rw [split, blanks]
    rw [Place.mode_behind (step_finds stepped)] at later
    exact .token (Place.mayReplace_self token blank) (ih later)

/-! ## The same tokens give the same render -/

/-- Literal text is empty exactly when it has no tokens. -/
theorem Scans.eq_nil_iff {previous : Option Char} {text : List Char} {tokens : List Token}
    (scans : Scans .literal previous text tokens) : text = [] ↔ tokens = [] := by
  -- Without characters there is nothing to scan, and without tokens nothing was there.
  constructor
  · rintro rfl
    have nothing : Scans .literal previous [] [] := scans_nil_iff.mpr rfl
    exact (Scan.mk.inj (scans.symm.trans nothing)).1
  · rintro rfl
    exact literalStep_eq_finished_iff.mp (scans_nil_iff.mp scans)

/-- Sources with the same tokens are rendered in the same way, with the same diagnostics. -/
theorem tryRender_of_tokens {source other : String} {found : List Token}
    (scanned : tokens source = .ok found) (again : tokens other = .ok found) (engine : Engine)
    (payload : Value) (definitions : Option Render.Lookup) :
    engine.tryRender other payload definitions = engine.tryRender source payload definitions := by
  have empty : other.isEmpty = source.isEmpty := by
    have left := (tokens_eq_ok_iff.mp scanned).eq_nil_iff
    have right := (tokens_eq_ok_iff.mp again).eq_nil_iff
    rw [String.toList_eq_nil_iff] at left right
    rw [Bool.eq_iff_iff, String.isEmpty_iff, String.isEmpty_iff, left, right]
  have tokenized : tokenize other = tokenize source := by rw [tokenize, again, tokenize, scanned]
  -- Nothing but its tokens is read of a source that is not empty.
  rw [Engine.tryRender, Render.renderWithin, empty, tokenized, Engine.tryRender,
    Render.renderWithin]

/-- Spacing inside expressions is irrelevant.  A source that has tokens spells them with certain
spaces, and with any others that keep apart what they kept apart it has the same tokens, and the
same render with every limit, payload and table. -/
theorem spacing_inside_expressions_is_irrelevant {source : String} {found : List Token}
    (scanned : tokens source = .ok found) :
    Respaced .outside found source.toList source.toList ∧
      ∀ other : String, Respaced .outside found source.toList other.toList →
        tokens other = .ok found ∧
          ∀ (engine : Engine) (payload : Value) (definitions : Option Render.Lookup),
            engine.tryRender other payload definitions =
              engine.tryRender source payload definitions := by
  -- Templates with the same tokens are rendered alike.
  have scans : Scans Place.outside.mode none source.toList found := tokens_eq_ok_iff.mp scanned
  refine ⟨.refl scans, fun other respaced => ?_⟩
  have again : tokens other = .ok found := tokens_eq_ok_iff.mpr (respaced.scans nofun scans)
  exact ⟨again, tryRender_of_tokens scanned again⟩

/-- Words that touch each other may be set apart, and the spaces at the braces may be any. -/
theorem spacing_inside_expressions_is_irrelevant_glued :
    tokens "$\x7bifdatakey.x  \x7d" =
        .ok [.exprStart, .keyword .ifWord, .path "data", .path "key.x", .exprEnd] ∧
      tokens "$\x7b if  datakey.x\x7d" =
        .ok [.exprStart, .keyword .ifWord, .path "data", .path "key.x", .exprEnd] := by
  have scanned : tokens "$\x7bifdatakey.x  \x7d" =
      .ok [.exprStart, .keyword .ifWord, .path "data", .path "key.x", .exprEnd] := by
    decide +kernel
  -- Blanks come and go between the brace, the words and the other brace.
  have respaced : Respaced .outside
      [.exprStart, .keyword .ifWord, .path "data", .path "key.x", .exprEnd]
      "$\x7bifdatakey.x  \x7d".toList "$\x7b if  datakey.x\x7d".toList :=
    @Respaced.token .outside .exprStart _ _ _ 0 0 ⟨rfl, rfl⟩ <|
      @Respaced.token .opened (.keyword .ifWord) _ _ _ 0 1 trivial <|
      @Respaced.token .behindWord (.path "data") _ _ _ 0 2 (.inr Nat.two_pos) <|
      @Respaced.token .behindWord (.path "key.x") _ _ _ 0 0 (.inl rfl) <|
      @Respaced.token .behindWord .exprEnd _ _ _ 2 0 trivial .done
  exact ⟨scanned, ((spacing_inside_expressions_is_irrelevant scanned).2 _ respaced).1⟩

end PayloadTemplate.Template
