import PayloadTemplate.Text.Width

/-! Files in a directory tree, as far as reading them goes. -/

namespace PayloadTemplate

open Text

/-- Why a file cannot be read as text. -/
inductive FileError where
  /-- There is nothing at the path. -/
  | notFound
  /-- The path leads to a directory. -/
  | isDirectory
  /-- The path goes through something that is no directory. -/
  | notDirectory
  /-- The path, or a name in it, takes up too many bytes. -/
  | nameTooLong
  /-- The path holds the character that ends paths. -/
  | endInsidePath
  /-- The bytes of the file are no text. -/
  | notText
  /-- A fault that the caller describes. -/
  | reported (detail : String)
  deriving DecidableEq, Repr

/-- The fault as the operating system reports it. -/
def FileError.message : FileError → String
  | .notFound => "No such file or directory (os error 2)"
  | .isDirectory => "Is a directory (os error 21)"
  | .notDirectory => "Not a directory (os error 20)"
  | .nameTooLong => "File name too long (os error 36)"
  | .endInsidePath => "file name contained an unexpected NUL byte"
  | .notText => "stream did not contain valid UTF-8"
  | .reported detail => detail

/-- What a name in a directory stands for. -/
inductive FileNode where
  /-- A file with its bytes. -/
  | file (bytes : ByteArray)
  /-- A directory. -/
  | directory

/-- A directory tree: what stands at each path, given by its names from the root on.  The
directories on the way to a path exist with it. -/
structure Files where
  /-- The paths with what stands there. -/
  nodes : List (List String × FileNode)

namespace Files

/-- The parts of a path between its slashes. -/
def pathParts (path : String) : List String :=
  (path.toList.splitOn '/').map String.ofList

/-- A tree from relative paths and what stands there. -/
def ofPaths (paths : List (String × FileNode)) : Files :=
  ⟨paths.map fun entry => ((pathParts entry.1).filter (· != ""), entry.2)⟩

/-- Where a path leads. -/
inductive Place where
  /-- A place in the tree, by the names from its root on. -/
  | inside (names : List String)
  /-- A directory above the root.  Nothing can be found there by name. -/
  | above
  deriving DecidableEq, Repr

/-- The directory that holds a place.  The uppermost directory holds itself. -/
def Place.parent : Place → Place
  | .inside [] => .above
  | .inside names => .inside names.dropLast
  | .above => .above

/-- The place with a name in a directory. -/
def Place.child (place : Place) (name : String) : Except FileError Place :=
  match place with
  | .inside names => .ok (.inside (names ++ [name]))
  | .above => .error .notFound

/-- What stands at a place. -/
def nodeAt? (files : Files) : Place → Option FileNode
  | .above => some .directory
  | .inside names =>
    match files.nodes.find? (fun entry => entry.1 == names) with
    | some (_, node) => some node
    | none =>
      -- The root and whatever contains something are directories.
      if names.isEmpty || files.nodes.any (fun entry => names.isPrefixOf entry.1) then
        some .directory
      else none

/-- The most bytes that a name may take up. -/
def nameLimit : Nat := 255

/-- The most bytes that a path may take up. -/
def pathLimit : Nat := 4095

/-- Takes one step along a path, which is possible from directories only. -/
def step (files : Files) (place : Place) (part : String) : Except FileError Place :=
  match files.nodeAt? place with
  | none => .error .notFound
  | some (.file _) => .error .notDirectory
  | some .directory =>
    if part = "" ∨ part = "." then .ok place
    else if part = ".." then .ok place.parent
    else if nameLimit < byteCount part.toList then .error .nameTooLong
    else place.child part

/-- Where a path begins: with a slash above the tree, and else at its root. -/
def startOf (path : String) : Place :=
  if path.toList.head? = some '/' then .above else .inside []

/-- The text of the file at a path. -/
def readText (files : Files) (path : String) : Except FileError String := do
  if path.toList.contains '\x00' then
    throw .endInsidePath
  if path = "" then
    throw .notFound
  if pathLimit < byteCount path.toList then
    throw .nameTooLong
  let place ← (pathParts path).foldlM files.step (startOf path)
  match files.nodeAt? place with
  | none => throw .notFound
  | some .directory => throw .isDirectory
  | some (.file bytes) =>
    match String.fromUTF8? bytes with
    | some text => return text
    | none => throw .notText

end Files

end PayloadTemplate
