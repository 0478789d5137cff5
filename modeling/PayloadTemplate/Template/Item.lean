/-! Parsed templates: texts, references, conditional blocks and loops. -/

namespace PayloadTemplate.Template

/-- A node of a parsed template. -/
inductive Item where
  /-- Literal text. -/
  | text (content : String)
  /-- The character that an escape sequence stands for. -/
  | escaped (character : Char)
  /-- The value found at a path. -/
  | reference (path : String)
  /-- A body for when the value at a path counts as true. -/
  | whenTrue (condition : String) (body : List Item)
  /-- A body for when the value at a path does not count as true. -/
  | whenFalse (condition : String) (body : List Item)
  /-- Two bodies, of which the value at a path chooses one. -/
  | choice (condition : String) (accepted refused : List Item)
  /-- A body for every element of what is found at a path. -/
  | loop (index : Char) (source : String) (body : List Item)
  deriving Repr, Inhabited

end PayloadTemplate.Template
