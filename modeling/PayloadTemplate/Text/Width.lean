/-! How many bytes characters take up in UTF-8. -/

namespace PayloadTemplate.Text

/-- The number of bytes of a run of characters in UTF-8. -/
def byteCount : List Char → Nat
  | [] => 0
  | character :: rest => character.utf8Size + byteCount rest

@[simp] theorem byteCount_nil : byteCount [] = 0 := rfl

@[simp] theorem byteCount_cons (character : Char) (rest : List Char) :
    byteCount (character :: rest) = character.utf8Size + byteCount rest := rfl

@[simp] theorem byteCount_append (left right : List Char) :
    byteCount (left ++ right) = byteCount left + byteCount right := by
  -- Widths add up over a concatenation.
  induction left with
  | nil => simp
  | cons character rest ih =>
    rw [List.cons_append, byteCount_cons, byteCount_cons, ih]
    omega

end PayloadTemplate.Text
