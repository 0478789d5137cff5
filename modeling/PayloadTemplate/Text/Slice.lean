import PayloadTemplate.Text.Width

/-! Parts of a text between two places that are counted in bytes. -/

namespace PayloadTemplate.Text

/-- The characters from a place on.  None begin inside a character or past the end. -/
def fromByte? : Nat → List Char → Option (List Char)
  | 0, text => some text
  | _ + 1, [] => none
  | start + 1, character :: rest =>
    if character.utf8Size ≤ start + 1 then fromByte? (start + 1 - character.utf8Size) rest else none

/-- The characters up to a place.  None end inside a character or past the end. -/
def upToByte? : Nat → List Char → Option (List Char)
  | 0, _ => some []
  | _ + 1, [] => none
  | stop + 1, character :: rest =>
    if character.utf8Size ≤ stop + 1 then
      (upToByte? (stop + 1 - character.utf8Size) rest).map (character :: ·)
    else none

/-- The characters between two places. -/
def slice? (text : List Char) (start stop : Nat) : Option (List Char) :=
  (fromByte? start text).bind (upToByte? (stop - start))

theorem fromByte?_append (left right : List Char) :
    fromByte? (byteCount left) (left ++ right) = some right := by
  -- Each character takes as many bytes off the place as it takes up itself.
  induction left with
  | nil => cases right <;> rfl
  | cons character rest ih =>
    obtain ⟨bytes, width⟩ := Nat.exists_eq_add_one_of_ne_zero
      (Nat.ne_of_gt (Nat.add_pos_left character.utf8Size_pos (byteCount rest)))
    rw [byteCount_cons, width, List.cons_append, fromByte?, if_pos (by omega)]
    rw [show bytes + 1 - character.utf8Size = byteCount rest by omega, ih]

theorem upToByte?_append (left right : List Char) :
    upToByte? (byteCount left) (left ++ right) = some left := by
  -- Each character takes as many bytes off the place as it takes up itself.
  induction left with
  | nil => cases right <;> rfl
  | cons character rest ih =>
    obtain ⟨bytes, width⟩ := Nat.exists_eq_add_one_of_ne_zero
      (Nat.ne_of_gt (Nat.add_pos_left character.utf8Size_pos (byteCount rest)))
    rw [byteCount_cons, width, List.cons_append, upToByte?, if_pos (by omega)]
    rw [show bytes + 1 - character.utf8Size = byteCount rest by omega, ih, Option.map_some]

end PayloadTemplate.Text
