import FigureGallery.Number.Width
import FigureGallery.Path.Normal

/-!
# File trees

A finite tree of files and directories with a working directory, as a value. A path is looked up step by step: every
step but the last has to lead to a directory, `..` leads to the directory above, and `..` at the top stays there.
The tree has no links, so each file has one location.
-/

namespace FigureGallery

/-- The names from the top of a tree to one of its entries. -/
abbrev Location := List String

/-- An entry of a file tree. -/
inductive Node where
  | file (content : ByteArray)
  | directory

/-- Whether an entry is a directory. -/
def Node.isDirectory : Node → Bool
  | .file _ => false
  | .directory => true

/-- Why a file could not be used. -/
inductive FileError where
  | notFound
  | notADirectory
  | isADirectory
  | nameTooLong
  /-- The path holds the character that ends paths in system calls. -/
  | nulInPath
  | notText
deriving DecidableEq

/-- The text of a file error. -/
def FileError.message : FileError → String
  | .notFound => "No such file or directory (os error 2)"
  | .notADirectory => "Not a directory (os error 20)"
  | .isADirectory => "Is a directory (os error 21)"
  | .nameTooLong => "File name too long (os error 36)"
  | .nulInPath => "file name contained an unexpected NUL byte"
  | .notText => "stream did not contain valid UTF-8"

/-- A file tree: its entries below the top, and the directory that relative paths start from. Of two entries with
one location the first counts. -/
structure FileTree where
  entries : List (Location × Node)
  workingDirectory : Location

namespace FileTree

/-- The longest path, in bytes, that can be looked up. -/
def maxPathLength : Nat := 4095

/-- At least the number of texts of at most `length` bytes. It is never computed in a proof, as it may be very large. -/
@[irreducible]
def textBound (length : Nat) : Nat :=
  Width.capacity (8 * (length + 1))

/-- The longest name of an entry, in bytes. -/
def maxNameLength : Nat := 255

/-- The number of bytes of a part of a path. -/
def byteLength (part : List Char) : Nat :=
  (String.ofList part).utf8ByteSize

/-- The entry at a location; the top is a directory. -/
def get? (tree : FileTree) : Location → Option Node
  | [] => some .directory
  | location => tree.entries.lookup location

/-- Follows the parts of a path from a location at which there is an entry. -/
def follow (tree : FileTree) (location : Location) : List (List Char) → Except FileError Location
  | [] => .ok location
  | part :: parts =>
    match tree.get? location with
    | some .directory =>
      if Path.isIdle part then tree.follow location parts
      else if part = ['.', '.'] then tree.follow location.dropLast parts
      else if byteLength part > maxNameLength then .error .nameTooLong
      else
        let next := location ++ [String.ofList part]
        if (tree.get? next).isSome then tree.follow next parts else .error .notFound
    | _ => .error .notADirectory

/-- The location that a path starts from, and the parts that lead on from there. -/
def start (tree : FileTree) (p : Path) : Except FileError (Location × List (List Char)) :=
  if p.text.toList.contains '\x00' then .error .nulInPath
  else if p.text = "" then .error .notFound
  else if p.text.utf8ByteSize > maxPathLength then .error .nameTooLong
  else match p.split with
    | (.root, parts) => .ok ([], parts)
    | (_, parts) => .ok (tree.workingDirectory, parts)

/-- The location that a path leads to. -/
def locate (tree : FileTree) (p : Path) : Except FileError Location :=
  (tree.start p).bind fun (location, parts) => tree.follow location parts

/-- The entry that a path leads to. -/
def node? (tree : FileTree) (p : Path) : Option Node :=
  match tree.locate p with
  | .ok location => tree.get? location
  | .error _ => none

/-- Whether a path leads to a file. -/
def isFile (tree : FileTree) (p : Path) : Bool :=
  match tree.node? p with
  | some (.file _) => true
  | _ => false

/-- Whether a path leads to a directory. -/
def isDirectory (tree : FileTree) (p : Path) : Bool :=
  match tree.node? p with
  | some .directory => true
  | _ => false

/-- The bytes of the file that a path leads to. -/
def readBytes (tree : FileTree) (p : Path) : Except FileError ByteArray :=
  match tree.locate p with
  | .error e => .error e
  | .ok location => match tree.get? location with
    | some (.file content) => .ok content
    | some .directory => .error .isADirectory
    | none => .error .notFound

/-- The text of the file that a path leads to. -/
def readText (tree : FileTree) (p : Path) : Except FileError String :=
  match tree.readBytes p with
  | .error e => .error e
  | .ok content => match String.fromUTF8? content with
    | some text => .ok text
    | none => .error .notText

/-- The name of an entry directly below a location. -/
def nameBelow? (location other : Location) : Option String :=
  match other.reverse with
  | [] => none
  | name :: above => if above.reverse = location then some name else none

/-- The names of the entries directly below a location. -/
def namesAt (tree : FileTree) (location : Location) : List String :=
  tree.entries.filterMap fun entry => nameBelow? location entry.1

/-- The names in the directory that a path leads to; none when it leads to no directory. -/
def list (tree : FileTree) (p : Path) : List String :=
  match tree.locate p with
  | .ok location => if (tree.get? location).any Node.isDirectory then tree.namesAt location else []
  | .error _ => []

/-- The path of a location. -/
def pathOf (location : Location) : Path :=
  .ofSplit .root (location.map String.toList)

/-- The working directory as a path. -/
def workingPath (tree : FileTree) : Path :=
  pathOf tree.workingDirectory

/-- A path as seen from the top of the tree, in normal form. -/
def absolute (tree : FileTree) (p : Path) : Path :=
  Path.absolute tree.workingPath p

/-- Puts an entry at a location. -/
def set (tree : FileTree) (location : Location) (node : Node) : FileTree :=
  { tree with entries := (location, node) :: tree.entries.filter fun entry => entry.1 != location }

/-- Puts a directory at a location and at every location above it that has no entry. -/
def makeDirectories (tree : FileTree) (location : Location) : FileTree :=
  (List.range (location.length + 1)).foldl
    (fun tree n => if (tree.get? (location.take n)).isSome then tree else tree.set (location.take n) .directory) tree

/-- Puts a file at a location, and directories above it. -/
def place (tree : FileTree) (location : Location) (content : ByteArray) : FileTree :=
  (tree.makeDirectories location.dropLast).set location (.file content)

/-- Removes the entry at a location with everything below it. -/
def remove (tree : FileTree) (location : Location) : FileTree :=
  { tree with entries := tree.entries.filter fun entry => !location.isPrefixOf entry.1 }

/-- Writes a file with a name in the directory at a location. -/
def writeAt (tree : FileTree) (location : Location) (name : List Char) (content : ByteArray) :
    Except FileError FileTree :=
  let place := location ++ [String.ofList name]
  if byteLength name > maxNameLength then .error .nameTooLong
  else if (tree.get? place).any Node.isDirectory then .error .isADirectory
  else .ok (tree.set place (.file content))

/-- Writes a file whose directory exists. A path that ends in a slash, or in a step that is no name, is one of a
directory, whether it exists or not. -/
def write (tree : FileTree) (p : Path) (content : ByteArray) : Except FileError FileTree := do
  let (origin, parts) ← tree.start p
  let named := (parts.reverse.dropWhile List.isEmpty).reverse
  let location ← tree.follow origin named.dropLast
  if (tree.get? location).any Node.isDirectory then
    match named.getLast? with
    | some name =>
      if Path.isIdle name || name = ['.', '.'] || named.length < parts.length then .error .isADirectory
      else tree.writeAt location name content
    | none => .error .isADirectory
  else .error .notADirectory

end FileTree

end FigureGallery
