import PayloadTemplate.Template.Parser

/-! The grammar of templates as a relation between items and the tokens that spell them. -/

namespace PayloadTemplate.Template

/-- The tokens of an expression that consists of one keyword. -/
def closing (word : Keyword) : List Token :=
  [.exprStart, .keyword word, .exprEnd]

/-- How items may be spelled.  A reference has two spellings, and the sign in front of an escaped
character may be any. -/
inductive Spells : List Item → List Token → Prop where
  /-- No items are spelled by no tokens. -/
  | nil : Spells [] []
  /-- A text is spelled character by character. -/
  | text {content : String} {rest : List Item} {tokens : List Token} (later : Spells rest tokens) :
      Spells (.text content :: rest) (content.toList.map .text ++ tokens)
  /-- An escape consists of two characters and stands for the second. -/
  | escaped {raw : String} {sign character : Char} {rest : List Item} {tokens : List Token}
      (pair : raw.toList = [sign, character]) (later : Spells rest tokens) :
      Spells (.escaped character :: rest) (.escaped raw :: tokens)
  /-- A path outside an expression. -/
  | shortcut {path : String} {rest : List Item} {tokens : List Token}
      (later : Spells rest tokens) :
      Spells (.reference path :: rest) (.shortcut path :: tokens)
  /-- A path that is an expression of its own. -/
  | braced {path : String} {rest : List Item} {tokens : List Token}
      (later : Spells rest tokens) :
      Spells (.reference path :: rest) (.exprStart :: .path path :: .exprEnd :: tokens)
  /-- A conditional block. -/
  | whenTrue {condition : String} {body rest : List Item} {inside tokens : List Token}
      (within : Spells body inside) (later : Spells rest tokens) :
      Spells (.whenTrue condition body :: rest)
        (.exprStart :: .keyword .ifWord :: .path condition :: .exprEnd ::
          (inside ++ (closing .endIfWord ++ tokens)))
  /-- A conditional block whose condition is negated. -/
  | whenFalse {condition : String} {body rest : List Item} {inside tokens : List Token}
      (within : Spells body inside) (later : Spells rest tokens) :
      Spells (.whenFalse condition body :: rest)
        (.exprStart :: .keyword .ifWord :: .keyword .notWord :: .path condition :: .exprEnd ::
          (inside ++ (closing .endIfWord ++ tokens)))
  /-- A conditional block with two branches. -/
  | choice {condition : String} {accepted refused rest : List Item}
      {first second tokens : List Token} (withinFirst : Spells accepted first)
      (withinSecond : Spells refused second) (later : Spells rest tokens) :
      Spells (.choice condition accepted refused :: rest)
        (.exprStart :: .keyword .ifWord :: .path condition :: .exprEnd ::
          (first ++ (closing .elseWord ++ (second ++ (closing .endIfWord ++ tokens)))))
  /-- A loop. -/
  | loop {index : Char} {source : String} {body rest : List Item} {inside tokens : List Token}
      (within : Spells body inside) (later : Spells rest tokens) :
      Spells (.loop index source body :: rest)
        (.exprStart :: .keyword .forWord :: .index index :: .keyword .inWord :: .path source ::
          .exprEnd :: (inside ++ (closing .endForWord ++ tokens)))

/-- Whether an item is a text. -/
def Item.isText : Item → Bool
  | .text _ => true
  | _ => false

/-- Whether items begin with a text. -/
def startsWithText : List Item → Bool
  | item :: _ => item.isText
  | [] => false

mutual

/-- An item that the grammar can produce inside loops with the given index names. -/
def Item.WellFormed (enclosing : List Char) : Item → Prop
  | .text content => content ≠ ""
  | .escaped _ => True
  | .reference _ => True
  | .whenTrue _ body => body ≠ [] ∧ WellFormedItems enclosing body
  | .whenFalse _ body => body ≠ [] ∧ WellFormedItems enclosing body
  | .choice _ accepted refused =>
    (accepted ≠ [] ∧ WellFormedItems enclosing accepted) ∧
      refused ≠ [] ∧ WellFormedItems enclosing refused
  -- The body of a loop stands inside one loop more.
  | .loop index _ body =>
    index ∉ enclosing ∧ body ≠ [] ∧ WellFormedItems (index :: enclosing) body

/-- Items that the grammar can produce one after the other: no text follows a text. -/
def WellFormedItems (enclosing : List Char) : List Item → Prop
  | [] => True
  | item :: rest =>
    item.WellFormed enclosing ∧ (item.isText = true → startsWithText rest = false) ∧
      WellFormedItems enclosing rest

end

/-- A template holds at least one item and is well-formed outside all loops. -/
def WellFormed (items : List Item) : Prop :=
  -- Bodies hold at least one item as well, but they stand inside loops.
  items ≠ [] ∧ WellFormedItems [] items

/-- Whether tokens begin with a character that stands for itself. -/
def startsWithCharacter : List Token → Bool
  | .text _ :: _ => true
  | _ => false

/-- Only a text is spelled by tokens that begin with a character. -/
theorem Spells.no_character {items : List Item} {tokens after : List Token}
    (spells : Spells items tokens) (notText : startsWithText items = false)
    (stopped : startsWithCharacter after = false) :
    startsWithCharacter (tokens ++ after) = false := by
  -- Everything else begins with a sign.
  cases spells with
  | nil => exact stopped
  | text _ => cases notText
  | _ => rfl

end PayloadTemplate.Template
