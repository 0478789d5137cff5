import PayloadTemplate.Pattern.Atom

/-!
Sets of characters in brackets.  A set has members, ranges of characters, named classes and sets of
its own, and may be met with other sets or have them taken away.
-/

namespace PayloadTemplate.Pattern

/-- What is known about a set once it has been read. -/
structure Extent where
  /-- Whether it holds the bytes beyond ASCII.  A set holds all of them or none. -/
  wide : Bool
  /-- How deep its parts are nested. -/
  height : Nat
  deriving DecidableEq, Repr

/-- The extent of a member that is a single character or a class within ASCII. -/
def Extent.narrow : Extent := ⟨false, 0⟩

/-- How two sets are put together. -/
inductive Operator where
  /-- What is in both. -/
  | intersection
  /-- What is in the first only. -/
  | difference
  /-- What is in one of them only. -/
  | symmetricDifference
  deriving DecidableEq, Repr

/-- The greatest of some heights. -/
def greatest (heights : List Nat) : Nat :=
  heights.foldl max 0

/-- How deep a list of parts is nested: a single part counts as itself. -/
def heightOfList : List Nat → Nat
  | [] => 0
  | [height] => height
  | heights => greatest heights + 1

/-- The extent of the set of some members. -/
def Extent.union (members : List Extent) : Extent :=
  ⟨members.any (·.wide), heightOfList (members.map (·.height))⟩

/-- The extent of two sets put together. -/
def Operator.apply (operator : Operator) (left right : Extent) : Extent :=
  let wide := match operator with
    | .intersection => left.wide && right.wide
    | .difference => left.wide && !right.wide
    | .symmetricDifference => left.wide != right.wide
  ⟨wide, max left.height right.height + 1⟩

/-- The names of classes within ASCII. -/
def classNames : List String :=
  ["alnum", "alpha", "ascii", "blank", "cntrl", "digit", "graph", "lower", "print", "punct",
    "space", "upper", "word", "xdigit"]

/-- Takes a named class after its opening bracket. -/
def namedClass? : List Char → Option (Extent × List Char)
  | ':' :: rest =>
    let (negated, rest) := match rest with
      | '^' :: rest => (true, rest)
      | rest => (false, rest)
    match rest.dropWhile (· != ':') with
    | ':' :: ']' :: after =>
      if classNames.contains (String.ofList (rest.takeWhile (· != ':'))) then
        some (⟨negated, 0⟩, after)
      else none
    | _ => none
  | _ => none

/-- Whether a mode allows a character as a member of a set.  Among bytes it has to be one byte. -/
def isMemberChar (mode : Mode) (character : Char) : Bool :=
  mode.unicode || !isWide character

/-- The extent of an atom as a member of a set.  Places between characters are no members. -/
def Atom.extent? (mode : Mode) : Atom → Option Extent
  | .literal character _ => if isMemberChar mode character then some .narrow else none
  | .shorthand negated =>
    if (Atom.shorthand negated).isAllowed mode then some .narrow else none
  | .category => if Atom.category.isAllowed mode then some .narrow else none
  | _ => none

/-- The extent of the range between two atoms, which have to be characters in order. -/
def rangeExtent? (mode : Mode) : Atom → Atom → Option Extent
  | .literal first _, .literal last _ =>
    if isMemberChar mode first && isMemberChar mode last && Nat.ble first.toNat last.toNat then
      some .narrow
    else none
  | _, _ => none

/-- Takes an atom inside brackets, where only the backslash has a meaning. -/
def memberAtom? (mode : Mode) : List Char → Option (Atom × List Char)
  | [] => none
  | '\\' :: rest => escape? mode rest
  | character :: rest => some (.literal character false, rest)

/-- Takes a member of a set or a range of members.  A hyphen before the closing bracket or before
another hyphen makes no range. -/
def member? (mode : Mode) (text : List Char) : Option (Extent × List Char) := do
  let (first, rest) ← memberAtom? mode text
  match mode.skip rest with
  | '-' :: after =>
    if mode.peek? after == some ']' || mode.peek? after == some '-' then
      some (← first.extent? mode, '-' :: after)
    else
      let (last, rest) ← memberAtom? mode (mode.skip after)
      some (← rangeExtent? mode first last, rest)
  | rest => some (← first.extent? mode, rest)

/-- A set of which a part has been read. -/
structure OpenSet where
  /-- What stands before the last operator, with that operator. -/
  left : Option (Extent × Operator)
  /-- The members since then. -/
  members : List Extent
  /-- Whether nothing but hyphens has been read, which are members there. -/
  fresh : Bool

namespace OpenSet

/-- A set of which nothing has been read. -/
def empty : OpenSet := ⟨none, [], true⟩

/-- The set with a further member. -/
def add (set : OpenSet) (member : Extent) : OpenSet :=
  ⟨set.left, member :: set.members, false⟩

/-- The set with a further hyphen at its start. -/
def addHyphen (set : OpenSet) : OpenSet :=
  ⟨set.left, .narrow :: set.members, true⟩

/-- The extent of all that has been read.  Operators bind from left to right. -/
def extent (set : OpenSet) : Extent :=
  match set.left with
  | some (left, operator) => operator.apply left (.union set.members)
  | none => .union set.members

/-- The set with an operator behind all that has been read. -/
def combine (set : OpenSet) (operator : Operator) : OpenSet :=
  ⟨some (set.extent, operator), [], false⟩

/-- The extent of the whole set once its bracket closes.  Among bytes a set may not hold those
beyond ASCII, of which characters consist. -/
def close? (set : OpenSet) (mode : Mode) (negated : Bool) : Option Extent :=
  let wide := set.extent.wide != negated
  if wide && !mode.unicode then none else some ⟨wide, set.extent.height + 1⟩

end OpenSet

/-- Takes the mark of negation after an opening bracket, if there is one, and tells about it. -/
def negation (mode : Mode) (text : List Char) : Bool × List Char :=
  match mode.skip text with
  | '^' :: rest => (true, rest)
  | rest => (false, rest)

/-- Takes the rest of a set, through its closing bracket.  The number bounds the characters left. -/
def setRest? (steps : Nat) (mode : Mode) (negated : Bool) (set : OpenSet) (text : List Char) :
    Option (Extent × List Char) :=
  match steps with
  | 0 => none
  | steps + 1 =>
    match mode.skip text with
    | [] => none
    | ']' :: rest =>
      if set.fresh && set.members.isEmpty then
        -- A set has members, so a bracket that comes first is one of them.
        setRest? steps mode negated (set.add .narrow) rest
      else
        (set.close? mode negated).map fun extent => (extent, rest)
    | '[' :: rest =>
      match namedClass? rest with
      | some (member, rest) => setRest? steps mode negated (set.add member) rest
      | none => do
        let (innerNegated, rest) := negation mode rest
        let (member, rest) ← setRest? steps mode innerNegated .empty rest
        setRest? steps mode negated (set.add member) rest
    | '&' :: '&' :: rest => setRest? steps mode negated (set.combine .intersection) rest
    | '~' :: '~' :: rest => setRest? steps mode negated (set.combine .symmetricDifference) rest
    | '-' :: rest =>
      if set.fresh then
        setRest? steps mode negated set.addHyphen rest
      else
        match rest with
        | '-' :: rest => setRest? steps mode negated (set.combine .difference) rest
        | _ => do
          let (member, rest) ← member? mode ('-' :: rest)
          setRest? steps mode negated (set.add member) rest
    | rest => do
      let (member, rest) ← member? mode rest
      setRest? steps mode negated (set.add member) rest

/-- Takes a set after its opening bracket. -/
def set? (mode : Mode) (text : List Char) : Option (Extent × List Char) :=
  let (negated, rest) := negation mode text
  setRest? (rest.length + 1) mode negated .empty rest

end PayloadTemplate.Pattern
