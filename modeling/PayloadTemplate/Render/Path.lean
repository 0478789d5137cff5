import PayloadTemplate.Loop.Key
import PayloadTemplate.Text.Integer
import PayloadTemplate.Word

/-!
Dotted paths.  The first segment of a path tells what the path refers to; in a payload each further
segment leads from a value to one of its parts.
-/

namespace PayloadTemplate.Render

open Loop Text

/-- The first segment of a path. -/
def pathRoot (path : String) : String :=
  String.ofList (path.toList.takeWhile (· != '.'))

/-- What follows the first segment of a path and its dot; a path without a dot is its own name. -/
def pathName (path : String) : String :=
  match path.toList.dropWhile (· != '.') with
  | _ :: name => String.ofList name
  | [] => path

/-- The segments after the first. -/
def pathSegments (path : String) : List String :=
  match path.toList.dropWhile (· != '.') with
  | _ :: name => (name.splitOn '.').map String.ofList
  | [] => []

/-- The position that a segment selects in a sequence: an integer of 64 bits, which counts back from
the end when it lies below zero. -/
def segmentPosition? (segment : String) (length : Nat) : Option Nat :=
  match signed? segment.toList with
  | some position =>
    if !fitsSignedWord position then none
    else if 0 ≤ position then some position.toNat
    else if position.natAbs ≤ length then some (length - position.natAbs)
    else none
  | none => none

/-- The part of a map under a segment: under the key that it spells, or else under the key that the
loop of that name has reached. -/
def entryAt? (bindings : Bindings) (entries : List (String × Value)) (segment : String) :
    Option Value :=
  match entries.lookup segment with
  | some value => some value
  | none =>
    match bindings.lookup segment with
    | some (.key name) => entries.lookup name
    | _ => none

/-- The part of a sequence under a segment: where the loop of that name has arrived, or else at the
position that the segment spells. -/
def itemAt? (bindings : Bindings) (items : List Value) (segment : String) : Option Value :=
  match bindings.lookup segment with
  | some (.index position) => items[position]?
  | some (.key _) => none
  | none => segmentPosition? segment items.length >>= (items[·]?)

/-- Follows segments from a value to one of its parts.  The length of a sequence is its last
stop. -/
def follow (bindings : Bindings) : List String → Value → Option Value
  | [], value => some value
  | segment :: rest, .map entries => entryAt? bindings entries segment >>= follow bindings rest
  | segment :: rest, .sequence items =>
    if segment = "length" then
      if rest.isEmpty then some (toValue items.length) else none
    else
      itemAt? bindings items segment >>= follow bindings rest
  | _ :: _, _ => none

end PayloadTemplate.Render
