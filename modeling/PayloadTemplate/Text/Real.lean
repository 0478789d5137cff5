import PayloadTemplate.Text.Lowercase

/-! Texts that spell real numbers. -/

namespace PayloadTemplate.Text

/-- The text without a sign at its start. -/
def skipSign : List Char → List Char
  | '+' :: rest => rest
  | '-' :: rest => rest
  | rest => rest

/-- Whether a text is an exponent: its letter, and digits behind a sign or none. -/
def isExponent : List Char → Bool
  | [] => false
  | letter :: rest =>
    let digits := skipSign rest
    (letter == 'e' || letter == 'E') && !digits.isEmpty && digits.all Char.isDigit

/-- Whether a text consists of digits, of which a point may separate any two or stand at an end, and
of an exponent or none. -/
def isDecimal (text : List Char) : Bool :=
  let whole := text.takeWhile Char.isDigit
  let (fraction, rest) := match text.dropWhile Char.isDigit with
    | '.' :: rest => (rest.takeWhile Char.isDigit, rest.dropWhile Char.isDigit)
    | rest => ([], rest)
  !(whole.isEmpty && fraction.isEmpty) && (rest.isEmpty || isExponent rest)

/-- Whether a text spells a real number, an infinity or the value that is no number. -/
def isReal (text : List Char) : Bool :=
  let size := skipSign text
  isDecimal size ||
    ["inf", "infinity", "nan"].any fun name => sameIgnoringAsciiCase (String.ofList size) name

end PayloadTemplate.Text
