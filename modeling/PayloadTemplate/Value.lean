import PayloadTemplate.Decimal.Binary64
import PayloadTemplate.Entries

/-!
The values that payloads consist of.  Maps keep their keys in the order of the document, which is
also the order in which loops visit them.
-/

namespace PayloadTemplate

/-- A number: an integer of 64 bits, signed or not, or a floating-point number. -/
inductive Number where
  /-- An integer. -/
  | integer (value : Int)
  /-- A finite floating-point number. -/
  | float (value : Decimal.Binary64)
  deriving DecidableEq, Repr

/-- Both zeros and the integer zero are zero. -/
def Number.isZero : Number → Bool
  | .integer value => value == 0
  | .float value => value.isZero

/-- A payload, or a part of one. -/
inductive Value where
  /-- The absence of a value. -/
  | null
  /-- A truth value. -/
  | bool (value : Bool)
  /-- A number. -/
  | number (value : Number)
  /-- A text. -/
  | string (value : String)
  /-- Values in order. -/
  | sequence (items : List Value)
  /-- Values under distinct keys, in order. -/
  | map (entries : List (String × Value))
  deriving Repr, Inhabited

/-- The kinds of values. -/
inductive Kind where
  /-- The absence of a value. -/
  | null
  /-- Truth values. -/
  | boolean
  /-- Numbers. -/
  | number
  /-- Texts. -/
  | string
  /-- Sequences. -/
  | sequence
  /-- Maps. -/
  | map
  deriving DecidableEq, Repr

/-- A kind as error messages name it. -/
def Kind.name : Kind → String
  | .null => "null"
  | .boolean => "boolean"
  | .number => "number"
  | .string => "string"
  | .sequence => "sequence"
  | .map => "map"

namespace Value

/-- The kind of a value. -/
def kind : Value → Kind
  | .null => .null
  | .bool _ => .boolean
  | .number _ => .number
  | .string _ => .string
  | .sequence _ => .sequence
  | .map _ => .map

/-- Whether a value counts as true: not null, false, zero or empty. -/
def isTruthy : Value → Bool
  | .null => false
  | .bool value => value
  | .number value => !value.isZero
  | .string value => !value.isEmpty
  | .sequence items => !items.isEmpty
  | .map entries => !entries.isEmpty

/-- The text of a string value. -/
def asString? : Value → Option String
  | .string value => some value
  | _ => none

/-- The map of a sequence of bindings: a key keeps its first place and its last value. -/
def ofBindings (bindings : List (String × Value)) : Value :=
  .map (Entries.ofBindings bindings)

end Value

/-- Data that can stand in a payload. -/
class ToValue (α : Type) where
  /-- The value that stands for the data. -/
  toValue : α → Value

export ToValue (toValue)

instance : ToValue Value := ⟨id⟩

instance : ToValue String := ⟨.string⟩

instance : ToValue Bool := ⟨.bool⟩

instance : ToValue Int := ⟨fun value => .number (.integer value)⟩

instance : ToValue Nat := ⟨fun value => .number (.integer value)⟩

instance {α : Type} [ToValue α] : ToValue (List α) := ⟨fun items => .sequence (items.map toValue)⟩

instance {α : Type} [ToValue α] : ToValue (Option α) :=
  ⟨fun
    | some value => toValue value
    | none => .null⟩

end PayloadTemplate
