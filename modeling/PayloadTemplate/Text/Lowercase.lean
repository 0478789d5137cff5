import PayloadTemplate.Text.CaseRuns
import PayloadTemplate.Text.Cased
import PayloadTemplate.Text.CodeRange

/-!
Lower case of a text in any script.  Each character has its own small form, except that a capital
sigma at the end of a word becomes the final sigma.
-/

namespace PayloadTemplate.Text

/-- The run moves the characters that lie a whole number of strides after its first. -/
def CaseRun.moves (run : CaseRun) (codePoint : Nat) : Bool :=
  Nat.ble run.first codePoint && Nat.ble codePoint run.last &&
    (codePoint - run.first) % run.stride == 0

/-- The small form of one character: two characters for the dotted capital I, otherwise one. -/
def lowercaseChar (character : Char) : List Char :=
  if character.toNat < 0x80 then
    -- Core's own mapping covers ASCII.
    [character.toLower]
  else if character == 'İ' then
    ['i', '\u0307']
  else
    match caseRuns.find? (·.moves character.toNat) with
    | some run => [Char.ofNat (character.toNat + run.shift).toNat]
    | none => [character]

/-- Whether, after any characters that case rules pass over, a cased character follows. -/
def casedFollows (characters : List Char) : Bool :=
  match characters.dropWhile (inRanges caseIgnorableRanges) with
  | character :: _ => inRanges casedRanges character
  | [] => false

/-- The small form of a capital sigma, which is final when a word ends with it. -/
def lowercaseSigma (before after : List Char) : Char :=
  if casedFollows before && !casedFollows after then 'ς' else 'σ'

/-- Lower case of what is left of a text, knowing what stood before it, nearest character first. -/
def lowercaseFrom (before : List Char) : List Char → List Char
  | [] => []
  | character :: rest =>
    let small :=
      if character == 'Σ' then [lowercaseSigma before rest] else lowercaseChar character
    small ++ lowercaseFrom (character :: before) rest

/-- The text in lower case. -/
def lowercase (text : String) : String :=
  String.ofList (lowercaseFrom [] text.toList)

/-- Two texts are the same but for the case of their ASCII letters. -/
def sameIgnoringAsciiCase (left right : String) : Bool :=
  left.toList.map Char.toLower == right.toList.map Char.toLower

end PayloadTemplate.Text
