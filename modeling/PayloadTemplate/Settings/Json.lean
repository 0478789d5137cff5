import PayloadTemplate.Json.Skipper
import PayloadTemplate.Settings.Basic
import PayloadTemplate.Word

/-!
Settings from JSON text: an object with any of the fields, or a list of the fields' values in order,
of which the last ones may be missing.
-/

namespace PayloadTemplate.Settings

open Json

/-- The fields of settings. -/
inductive Field where
  /-- Whether diagnostics are printed for people. -/
  | debug
  /-- Which diagnostics are printed. -/
  | logLevel
  /-- How deep variables may refer to further variables. -/
  | maxConfigDepth
  deriving DecidableEq, Repr

/-- The name of a field. -/
def Field.name : Field → String
  | .debug => "debug"
  | .logLevel => "log_level"
  | .maxConfigDepth => "max_config_depth"

/-- The field of a name. -/
def Field.ofName? (name : String) : Option Field :=
  [Field.debug, .logLevel, .maxConfigDepth].find? (·.name == name)

/-- The fault of a value of another shape than the one that is due.  It stands behind a scalar and
before a sequence or map. -/
def mismatchAt (due : Demand) (text : List Char) : Fault :=
  let fault (shape : Shape) (rest : List Char) : Fault := .before (.mismatch shape due) rest
  let afterWord (shape : Shape) : Except Fault (List Char) → Fault
    | .ok rest => fault shape rest
    | .error found => found
  let afterNumber : Except Fault (Number × List Char) → Fault
    | .ok (.integer value, rest) => fault (.integer value) rest
    | .ok (.float value, rest) => fault (.float value) rest
    | .error found => found
  match text with
  | 'n' :: rest => afterWord .null (readWord ['u', 'l', 'l'] rest)
  | 't' :: rest => afterWord (.boolean true) (readWord ['r', 'u', 'e'] rest)
  | 'f' :: rest => afterWord (.boolean false) (readWord ['a', 'l', 's', 'e'] rest)
  | '-' :: rest => afterNumber (readNumeral true rest)
  | '"' :: rest =>
    match readString .strict rest with
    | .ok (content, rest) => fault (.string content) rest
    | .error found => found
  | '[' :: _ => fault .sequence text
  | '{' :: _ => fault .map text
  | first :: _ =>
    if first.isDigit then afterNumber (readNumeral false text) else .at .expectedValue text
  | [] => .before .endInValue []

/-- Reads a truth value. -/
def readBool (text : List Char) : Except Fault (Bool × List Char) :=
  match skipSpacing text with
  | 't' :: rest => do return (true, ← readWord ['r', 'u', 'e'] rest)
  | 'f' :: rest => do return (false, ← readWord ['a', 'l', 's', 'e'] rest)
  | rest => .error (mismatchAt .boolean rest)

/-- Reads a text. -/
def readText (text : List Char) : Except Fault (String × List Char) :=
  match skipSpacing text with
  | '"' :: rest => readString .strict rest
  | rest => .error (mismatchAt .string rest)

/-- Accepts a number that is a natural number of 64 bits. -/
def requireDepth : Number × List Char → Except Fault (UInt64 × List Char)
  | (.integer value, rest) =>
    if 0 ≤ value && fitsWord value.toNat then .ok (UInt64.ofNat value.toNat, rest)
    else .error (.before (.outsideRange value .depth) rest)
  | (.float value, rest) => .error (.before (.mismatch (.float value) .depth) rest)

/-- Reads a natural number of 64 bits. -/
def readDepth (text : List Char) : Except Fault (UInt64 × List Char) :=
  match skipSpacing text with
  | '-' :: rest => readNumeral true rest >>= requireDepth
  | first :: rest =>
    if first.isDigit then readNumeral false (first :: rest) >>= requireDepth
    else .error (mismatchAt .depth (first :: rest))
  | [] => .error (mismatchAt .depth [])

/-- Reads the value of a field. -/
def readField (settings : Settings) (text : List Char) :
    Field → Except Fault (Settings × List Char)
  | .debug => do
    let (debug, rest) ← readBool text
    return ({ settings with debug }, rest)
  | .logLevel => do
    let (logLevel, rest) ← readText text
    return ({ settings with logLevel }, rest)
  | .maxConfigDepth => do
    let (maxConfigDepth, rest) ← readDepth text
    return ({ settings with maxConfigDepth }, rest)

/-- The fault of a field that is given again.  It stands behind the key and the spacing after it,
and behind the end of the object if that follows. -/
def duplicateFault (field : Field) (text : List Char) : Fault :=
  match skipSpacing text with
  | '}' :: rest => .before (.duplicateField field.name) rest
  | rest => .before (.duplicateField field.name) rest

/-- Reads the members of an object from the given key on, knowing the fields already given.  The
number bounds the characters that are left. -/
def readMembers (steps : Nat) (given : List Field) (settings : Settings) (next : ObjectNext) :
    Except Fault (Settings × List Char) :=
  match steps, next with
  | _, .finished rest => .ok (settings, rest)
  | 0, .key _ => .error (.before .endInObject [])
  | steps + 1, .key text => do
    let (name, rest) ← readString .strict text
    match Field.ofName? name with
    | some field =>
      if field ∈ given then
        throw (duplicateFault field rest)
      else
        let rest ← readColon rest
        let (settings, rest) ← readField settings rest field
        nextKey rest >>= readMembers steps (field :: given) settings
    | none =>
      let rest ← readColon rest
      let rest ← skipValue (2 * rest.length + 1) rest
      nextKey rest >>= readMembers steps given settings

/-- Takes the end of a list whose fields have all been given. -/
def readListEnd (settings : Settings) (text : List Char) : Except Fault (Settings × List Char) :=
  match skipSpacing text with
  | [] => .error (.before .endInList [])
  | ']' :: rest => .ok (settings, rest)
  | ',' :: rest =>
    match skipSpacing rest with
    | ']' :: rest => .error (.at .trailingComma (']' :: rest))
    | rest => .error (.at .trailingCharacters rest)
  | rest => .error (.at .trailingCharacters rest)

/-- Reads the value of a field and of the fields after it, in order, from the members of a list. -/
def readListed (settings : Settings) (next : ListNext) (field : Field) (later : List Field) :
    Except Fault (Settings × List Char) :=
  match next with
  | .finished rest => .ok (settings, rest)
  | .member text => do
    let (settings, rest) ← readField settings text field
    match later with
    | [] => readListEnd settings rest
    | field :: later => readListed settings (← nextMember rest) field later

/-- Reads settings. -/
def readSettings (text : List Char) : Except Fault (Settings × List Char) :=
  match skipSpacing text with
  | '[' :: rest => do
    readListed {} (← firstMember rest) .debug [.logLevel, .maxConfigDepth]
  | '{' :: rest => firstKey rest >>= readMembers (rest.length + 1) [] {}
  | rest => .error (mismatchAt .settings rest)

/-- The settings that a JSON text describes.  What it leaves out has its default. -/
def ofJson (text : String) : Except Error Settings :=
  (readSettings text.toList >>= requireEnd).mapError (·.locate text.toList)

end PayloadTemplate.Settings
