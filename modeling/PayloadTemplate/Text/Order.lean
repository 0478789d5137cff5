/-! The order of texts by the code points of their characters. -/

namespace PayloadTemplate.Text

/-- Whether the first text does not come after the second. -/
def inOrder : List Char → List Char → Bool
  | [], _ => true
  | _ :: _, [] => false
  | first :: left, second :: right =>
    Nat.blt first.toNat second.toNat || first == second && inOrder left right

end PayloadTemplate.Text
