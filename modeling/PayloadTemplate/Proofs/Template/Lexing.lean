import PayloadTemplate.Proofs.Template.Grammar
import PayloadTemplate.Template.Lexer

/-! What scanning finds at the start of a text, and when it finds it whatever follows. -/

namespace PayloadTemplate.Template

open Text

/-! ## Paths -/

/-- Whether a text begins with a character that could continue a path. -/
def continuesPath : List Char → Bool
  | character :: _ => isSegmentChar character || character == '.'
  | [] => false

/-- Where no segment can go on, a run of segments is empty. -/
theorem segmentRun_of_not_continues {text : List Char} (boundary : continuesPath text = false) :
    segmentRun text = [] := by
  -- The first character is refused.
  cases text with
  | nil => rfl
  | cons character rest =>
    simp only [continuesPath, Bool.or_eq_false_iff] at boundary
    simp [segmentRun, boundary.1, boundary.2]

/-- A segment that starts a text also starts the run of segments there. -/
theorem startsSegment_segmentRun {text : List Char} (starts : startsSegment text = true)
    (after : List Char) : startsSegment (segmentRun text ++ after) = true := by
  -- The first character is taken.
  cases text with
  | nil => cases starts
  | cons character rest =>
    simp only [startsSegment] at starts
    simp [segmentRun, startsSegment, starts]

/-- A run of segments is found again in front of anything that cannot continue it. -/
theorem segmentRun_append (text : List Char) {after : List Char}
    (boundary : continuesPath after = false) :
    segmentRun (segmentRun text ++ after) = segmentRun text := by
  -- A dot is taken for the sake of the segment behind it, which is still there.
  induction text with
  | nil => exact segmentRun_of_not_continues boundary
  | cons character rest ih =>
    rw [segmentRun]
    split
    · rename_i taken
      rw [List.cons_append, segmentRun, ih, if_pos]
      simp only [Bool.or_eq_true, Bool.and_eq_true] at taken ⊢
      rcases taken with segment | ⟨dot, starts⟩
      · exact .inl segment
      · exact .inr ⟨dot, startsSegment_segmentRun starts after⟩
    · -- Where the run ended, the boundary takes the place of what was there.
      exact segmentRun_of_not_continues boundary

/-- Where no segment can go on, there are no dotted segments. -/
theorem dottedSegments_of_not_continues {text : List Char}
    (boundary : continuesPath text = false) : dottedSegments text = [] := by
  -- Segments have to begin with a dot.
  unfold dottedSegments
  split
  · exact segmentRun_of_not_continues boundary
  · rfl

/-- Dotted segments are found again in front of anything that cannot continue them. -/
theorem dottedSegments_append (text : List Char) {after : List Char}
    (boundary : continuesPath after = false) :
    dottedSegments (dottedSegments text ++ after) = dottedSegments text := by
  -- Either there are none, or they are a run that begins with a dot.
  have none : dottedSegments ([] ++ after) = [] := dottedSegments_of_not_continues boundary
  cases text with
  | nil => exact none
  | cons character rest =>
    by_cases dot : character = '.'
    · -- The dot belongs to the run if a segment follows it.
      subst dot
      have again := segmentRun_append ('.' :: rest) boundary
      show dottedSegments (segmentRun ('.' :: rest) ++ after) = segmentRun ('.' :: rest)
      rw [segmentRun] at again ⊢
      split
      · rename_i taken
        rw [if_pos taken] at again
        exact again
      · exact none
    · have other : dottedSegments (character :: rest) = [] := by simp [dottedSegments, dot]
      rw [other]
      exact none

/-- A path is found again in front of anything that cannot continue it. -/
theorem path?_append {text path after : List Char} (found : path? text = some path)
    (boundary : continuesPath after = false) : path? (path ++ after) = some path := by
  -- No root begins like another one, so the search stops at the same root.
  simp only [path?, Option.map_eq_some_iff] at found
  obtain ⟨root, chosen, rfl⟩ := found
  have member := List.mem_of_find?_eq_some chosen
  simp only [pathRoots, List.mem_cons, List.not_mem_nil, or_false] at member
  rcases member with rfl | rfl | rfl | rfl
  all_goals
    simp [path?, pathRoots, List.find?, List.isPrefixOf, dottedSegments_append _ boundary]

/-! ## Scanning token by token -/

/-- One step decides how a scan begins. -/
theorem scanFrom_eq (mode : Mode) (previous : Option Char) (text : List Char) :
    scanFrom mode previous text =
      match step mode previous text with
      | .finished => ⟨[], none⟩
      | .illegal rest => ⟨[], some rest⟩
      | .token token rest =>
        ⟨token :: (scanFrom (mode.after token) token.lexeme.getLast? rest).tokens,
          (scanFrom (mode.after token) token.lexeme.getLast? rest).stuck⟩ := by
  -- The step is the one that the scan looks at.
  rw [scanFrom]
  split <;> simp [*]

/-- Scanning a text to its end gives these tokens. -/
def Scans (mode : Mode) (previous : Option Char) (text : List Char) (tokens : List Token) : Prop :=
  -- Nothing is left, so no character has been illegal.
  scanFrom mode previous text = ⟨tokens, none⟩

/-- A text without tokens is finished at once. -/
theorem scans_nil_iff {mode : Mode} {previous : Option Char} {text : List Char} :
    Scans mode previous text [] ↔ step mode previous text = .finished := by
  -- Any other step gives a token or gets stuck.
  unfold Scans
  rw [scanFrom_eq]
  cases step mode previous text with
  | finished => simp
  | illegal rest => simp
  | token token rest => simp

/-- A token at the start of a text is followed by the tokens of the remaining text. -/
theorem scans_cons_iff {mode : Mode} {previous : Option Char} {text : List Char} {token : Token}
    {tokens : List Token} :
    Scans mode previous text (token :: tokens) ↔
      ∃ rest, step mode previous text = .token token rest ∧
        Scans (mode.after token) token.lexeme.getLast? rest tokens := by
  unfold Scans
  rw [scanFrom_eq]
  cases step mode previous text with
  | finished => simp
  | illegal rest => simp
  | token first rest =>
    -- The first token is the one found, and the rest of the scan is the scan of the rest.
    simp only [Scan.mk.injEq, List.cons.injEq, Step.token.injEq]
    constructor
    · intro scanned
      obtain ⟨⟨rfl, others⟩, complete⟩ := scanned
      -- The rest of the scan has the other tokens and is complete as well.
      refine ⟨rest, ⟨rfl, rfl⟩, ?_⟩
      generalize scanFrom _ _ rest = later at others complete ⊢
      cases later
      simp_all
    · intro scanned
      obtain ⟨_, ⟨rfl, rfl⟩, later⟩ := scanned
      simp [later]

/-- Literal text does not depend on what stands in front of it. -/
theorem Scans.of_literal {previous other : Option Char} {text : List Char} {tokens : List Token}
    (scans : Scans .literal previous text tokens) : Scans .literal other text tokens := by
  -- The rules of literal text do not look back.
  unfold Scans at scans ⊢
  rw [scanFrom_eq] at scans ⊢
  exact scans

/-- After some of its tokens, a text is scanned on from where these end. -/
theorem Scans.append {mode : Mode} {previous : Option Char} {text : List Char}
    {first second : List Token} (scans : Scans mode previous text (first ++ second)) :
    ∃ character rest, Scans (first.foldl Mode.after mode) character rest second := by
  -- Each token takes its part of the text and may change the rules.
  induction first generalizing mode previous text with
  | nil => exact ⟨previous, text, scans⟩
  | cons token tokens ih =>
    obtain ⟨rest, _, later⟩ := scans_cons_iff.mp scans
    exact ih later

/-- Literal text allows every character. -/
theorem literalStep_ne_illegal (text rest : List Char) : literalStep text ≠ .illegal rest := by
  -- Every rule ends the scan or gives a token.
  unfold literalStep
  repeat' split
  all_goals exact Step.noConfusion

/-- Where no rule applies, there is a character. -/
theorem expressionStep_illegal_ne_nil {previous : Option Char} {text rest : List Char}
    (stuck : expressionStep previous text = .illegal rest) : rest ≠ [] := by
  -- The rest begins with the character that has been looked at.
  fun_induction expressionStep previous text with
  | case1 _ tail ih => exact ih stuck
  | case2 _ text _ =>
    unfold wordStep at stuck
    repeat' split at stuck
    all_goals cases stuck
    exact List.cons_ne_nil _ _

/-- A scan that gets stuck has met a character. -/
theorem scanFrom_stuck_ne_nil (mode : Mode) (previous : Option Char) (text : List Char) :
    (scanFrom mode previous text).stuck ≠ some [] := by
  -- The last step of the scan is the one that has met it.
  fun_induction scanFrom mode previous text with
  | case1 _ _ _ _ => simp
  | case2 mode _ _ rest stuck =>
    cases mode with
    | literal => exact absurd stuck (literalStep_ne_illegal _ _)
    | expression => simpa using expressionStep_illegal_ne_nil stuck
  | case3 _ _ _ _ _ _ later ih => exact ih

/-- A source has exactly the tokens that scanning it to its end gives. -/
theorem tokens_eq_ok_iff {source : String} {found : List Token} :
    tokens source = .ok found ↔ Scans .literal none source.toList found := by
  -- A scan that is stuck has a character to report.
  have stuck := scanFrom_stuck_ne_nil .literal none source.toList
  unfold tokens Scan.fault? scan Scans
  generalize scanFrom .literal none source.toList = result at stuck
  obtain ⟨tokens, _ | _ | _⟩ := result
  · simp
  · simp at stuck
  · -- The fault is reported in place of the tokens.
    simp

/-! ## Literal text -/

/-- No path starts a text exactly when no root does. -/
theorem path?_eq_none_iff {text : List Char} :
    path? text = none ↔ ∀ root ∈ pathRoots, ¬root <+: text := by
  simp [path?, List.isPrefixOf_iff_prefix]

/-- Literal text is finished only when nothing is left. -/
theorem literalStep_eq_finished_iff {text : List Char} :
    literalStep text = .finished ↔ text = [] := by
  -- Every rule but the first gives a token.
  constructor
  · intro finished
    unfold literalStep at finished
    repeat' split at finished
    all_goals first | rfl | cases finished
  · intro empty
    rw [empty]
    rfl

/-- Whether a character stands for itself in front of a text. -/
def Plain (character : Char) (rest : List Char) : Prop :=
  -- A dollar sign could open an expression or a path, and an escape sign an escape.
  (character = '$' → rest.head? ≠ some '{' ∧ path? rest = none) ∧
    (character = '\\' → rest.head? ≠ some '$')

/-- Literal text has a character as its first token exactly when it stands for itself. -/
theorem literalStep_eq_text_iff {text rest : List Char} {character : Char} :
    literalStep text = .token (.text character) rest ↔
      text = character :: rest ∧ Plain character rest := by
  -- The rules are tried in order, and only two of them give a character.
  unfold literalStep Plain
  split
  · simp
  · -- A dollar sign opens an expression.
    simp only [Step.token.injEq, reduceCtorEq, false_and, List.cons.injEq, false_iff, not_and]
    intro same
    obtain ⟨rfl, rfl⟩ := same
    simp
  · -- An escape sign escapes a dollar sign.
    simp only [Step.token.injEq, reduceCtorEq, false_and, List.cons.injEq, false_iff, not_and]
    intro same
    obtain ⟨rfl, rfl⟩ := same
    simp
  · -- Any other dollar sign stands for itself unless a path follows.
    rename_i others noBrace
    have noBrace : others.head? ≠ some '{' := by
      intro brace
      obtain ⟨later, rfl⟩ := List.head?_eq_some_iff.mp brace
      exact noBrace later rfl
    split
    · rename_i path found
      simp only [Step.token.injEq, reduceCtorEq, false_and, List.cons.injEq, false_iff, not_and]
      intro same
      obtain ⟨rfl, rfl⟩ := same
      simp [found]
    · rename_i found
      simp only [Step.token.injEq, Token.text.injEq, List.cons.injEq]
      constructor
      · intro same
        obtain ⟨rfl, rfl⟩ := same
        simp [found, noBrace]
      · intro plain
        obtain ⟨⟨rfl, rfl⟩, _⟩ := plain
        exact ⟨rfl, rfl⟩
  · -- All other characters stand for themselves.
    rename_i first others _ noEscape notDollar
    simp only [Step.token.injEq, Token.text.injEq, List.cons.injEq]
    constructor
    · intro same
      obtain ⟨rfl, rfl⟩ := same
      refine ⟨⟨rfl, rfl⟩, fun dollar => (notDollar dollar).elim, fun sign dollar => ?_⟩
      obtain ⟨later, rfl⟩ := List.head?_eq_some_iff.mp dollar
      exact noEscape later sign rfl
    · intro plain
      obtain ⟨⟨rfl, rfl⟩, _⟩ := plain
      exact ⟨rfl, rfl⟩

/-- Neither a dollar sign nor the escape sign occurs in a root. -/
theorem not_mem_root {root : List Char} (member : root ∈ pathRoots) :
    '$' ∉ root ∧ '\\' ∉ root := by
  revert root
  decide

/-- Whether a text ends here or goes on with a sign that is none of a root's letters. -/
def AtSign (text : List Char) : Prop :=
  -- An expression, a shortcut or an escape begins here if anything does.
  text.head? = none ∨ text.head? = some '$' ∨ text.head? = some '\\'

/-- A root that reaches up to a sign ends before it. -/
theorem prefix_append_atSign_iff {root before after : List Char} (member : root ∈ pathRoots)
    (sign : AtSign after) : root <+: before ++ after ↔ root <+: before := by
  -- One direction is transitivity; for the other, the two prefixes are compared.
  constructor
  · intro starts
    rcases List.prefix_or_prefix_of_prefix starts (List.prefix_append before after) with
      short | ⟨beyond, rfl⟩
    · exact short
    · -- The part of the root beyond would begin with the sign.
      cases beyond with
      | nil => simp
      | cons character others =>
        obtain ⟨later, rfl⟩ := (List.prefix_append_right_inj before).mp starts
        obtain ⟨noDollar, noEscape⟩ := not_mem_root member
        rcases sign with none | dollar | escape
        · simp at none
        · simp_all
        · simp_all
  · intro starts
    exact starts.trans (List.prefix_append before after)

/-- Whether a character stands for itself depends only on the sign behind the text it is in. -/
theorem plain_append_iff {character : Char} {before first second : List Char}
    (sign : AtSign first) (same : first.head? = second.head?) :
    Plain character (before ++ first) ↔ Plain character (before ++ second) := by
  -- A brace or a dollar sign can only follow at once, and a root cannot reach beyond the sign.
  have sign' : AtSign second := by rwa [AtSign, ← same]
  have heads : (before ++ first).head? = (before ++ second).head? := by
    simp [List.head?_append, same]
  have paths : path? (before ++ first) = none ↔ path? (before ++ second) = none := by
    simp only [path?_eq_none_iff]
    refine forall₂_congr fun root member => ?_
    rw [prefix_append_atSign_iff member sign, prefix_append_atSign_iff member sign']
  simp only [Plain, heads, paths]

/-- The first character of the first token, if there is one. -/
def firstCharacter (tokens : List Token) : Option Char :=
  tokens.head?.bind (·.lexeme.head?)

/-- Literal text begins with its first token, and with a sign or not at all when that is no
character. -/
theorem Scans.begins {previous : Option Char} {text : List Char} {tokens : List Token}
    (scans : Scans .literal previous text tokens) :
    text.head? = firstCharacter tokens ∧
      (startsWithCharacter tokens = false → AtSign text) := by
  -- The first character is that of the first token.
  cases tokens with
  | nil =>
    obtain rfl := literalStep_eq_finished_iff.mp (scans_nil_iff.mp scans)
    exact ⟨rfl, fun _ => .inl rfl⟩
  | cons token tokens =>
    obtain ⟨rest, stepped, _⟩ := scans_cons_iff.mp scans
    change literalStep text = .token token rest at stepped
    unfold literalStep at stepped
    repeat' split at stepped
    all_goals cases stepped
    -- An expression, an escape, a shortcut, a lone dollar sign and any other character.
    · exact ⟨rfl, fun _ => .inr (.inl rfl)⟩
    · exact ⟨rfl, fun _ => .inr (.inr rfl)⟩
    · exact ⟨rfl, fun _ => .inr (.inl rfl)⟩
    · exact ⟨rfl, fun _ => .inr (.inl rfl)⟩
    · exact ⟨rfl, fun character => by cases character⟩

/-- A run of characters is found again in front of any text that begins like the one behind it. -/
theorem Scans.run {previous : Option Char} {text other : List Char} {content : List Char}
    {following found : List Token}
    (scans : Scans .literal previous text (content.map .text ++ following))
    (stopped : startsWithCharacter following = false)
    (same : other.head? = firstCharacter following) (again : Scans .literal none other found) :
    (∃ behind, text = content ++ behind ∧ AtSign behind ∧ behind.head? = other.head?) ∧
      Scans .literal none (content ++ other) (content.map .text ++ found) := by
  -- Each character stands for itself because of what is behind the whole run.
  induction content generalizing previous text with
  | nil =>
    -- Behind the run both sources begin alike, at a sign.
    obtain ⟨begins, sign⟩ := scans.begins
    exact ⟨⟨text, rfl, sign stopped, begins.trans same.symm⟩, again⟩
  | cons character content ih =>
    obtain ⟨rest, stepped, later⟩ := scans_cons_iff.mp scans
    obtain ⟨rfl, plain⟩ := literalStep_eq_text_iff.mp stepped
    obtain ⟨⟨behind, rfl, sign, begins⟩, foundLater⟩ := ih later
    refine ⟨⟨behind, rfl, sign, begins⟩, ?_⟩
    have plain' : Plain character (content ++ other) := (plain_append_iff sign begins).mp plain
    exact scans_cons_iff.mpr
      ⟨content ++ other, literalStep_eq_text_iff.mpr ⟨rfl, plain'⟩, foundLater.of_literal⟩

end PayloadTemplate.Template
