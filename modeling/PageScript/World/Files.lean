import PageScript.Table
import PageScript.World.Path

namespace PageScript.World

/-!
# The file tree

A file tree binds locations to directories and files.  Paths are followed step by
step, so a step up or down is possible from a directory only.
-/

/-- What stands at a location. -/
inductive Entry where
  | directory
  | file (bytes : ByteArray)

/-- Why the system refuses to follow or open a path. -/
inductive SystemError where
  | noEntry
  | alreadyExists
  | notDirectory
  | isDirectory
  | nameTooLong
  deriving Repr, DecidableEq

/-- Directories and files by location. -/
structure FileTree where
  entries : Table Location Entry

namespace FileTree

/-- The greatest number of bytes in one part of a path. -/
def partLimit : Nat :=
  255

/-- The number of bytes that the text of a path has to stay below. -/
def pathLimit : Nat :=
  4096

/-- The entry at a location; the top is a directory. -/
def entry? (tree : FileTree) (location : Location) : Option Entry :=
  if location.isEmpty then some .directory else tree.entries.get? location

/-- Put an entry at a location. -/
def put (tree : FileTree) (location : Location) (entry : Entry) : FileTree :=
  ⟨tree.entries.insert location entry⟩

/-- Follow parts from a location that exists. -/
def follow (tree : FileTree) (reversed : Location) : List String → Except SystemError Location
  | [] => .ok reversed.reverse
  | part :: rest =>
      match tree.entry? reversed.reverse with
      | none => .error .noEntry
      | some (.file _) => .error .notDirectory
      | some .directory =>
          if part == ".." then
            follow tree (reversed.drop 1) rest
          else if partLimit < part.utf8ByteSize then
            .error .nameTooLong
          else
            follow tree (part :: reversed) rest

/-- The location that a path leads to from a directory; nothing needs to stand there. -/
def reach (tree : FileTree) (directory : Location) (path : Path) : Except SystemError Location :=
  if pathLimit ≤ path.toString.utf8ByteSize then
    .error .nameTooLong
  else
    tree.follow (if path.isAbsolute then [] else directory.reverse) path.parts

/-- The entry that a path leads to from a directory, and its location. -/
def find (tree : FileTree) (directory : Location) (path : Path) :
    Except SystemError (Location × Entry) :=
  match tree.reach directory path with
  | .error error => .error error
  | .ok location =>
      match tree.entry? location with
      | some entry => .ok (location, entry)
      | none => .error .noEntry

/-- Whether a path leads to something, or the system error that hides the answer. -/
def exists? (tree : FileTree) (directory : Location) (path : Path) : Except SystemError Bool :=
  match tree.find directory path with
  | .ok _ => .ok true
  | .error .noEntry => .ok false
  | .error .notDirectory => .ok false
  | .error error => .error error

/-- Whether a path leads to a file, or the system error that hides the answer. -/
def isFile? (tree : FileTree) (directory : Location) (path : Path) : Except SystemError Bool :=
  match tree.find directory path with
  | .ok (_, .file _) => .ok true
  | .ok (_, .directory) => .ok false
  | .error .noEntry => .ok false
  | .error .notDirectory => .ok false
  | .error error => .error error

/-- Whether a path leads to a directory, or the system error that hides the answer. -/
def isDirectory? (tree : FileTree) (directory : Location) (path : Path) :
    Except SystemError Bool :=
  match tree.find directory path with
  | .ok (_, .directory) => .ok true
  | .ok (_, .file _) => .ok false
  | .error .noEntry => .ok false
  | .error .notDirectory => .ok false
  | .error error => .error error

/-- Put directories at a location and above it. -/
def putDirectories (tree : FileTree) (location : Location) : FileTree :=
  ((List.range (location.length + 1)).map location.take).foldl
    (fun grown place => if (grown.entry? place).isSome then grown else grown.put place .directory)
    tree

/-- The bytes of the file that a path leads to. -/
def readBytes (tree : FileTree) (directory : Location) (path : Path) :
    Except SystemError ByteArray :=
  match tree.find directory path with
  | .error error => .error error
  | .ok (_, .directory) => .error .isDirectory
  | .ok (_, .file bytes) => .ok bytes

/-- Write a file; the directory that holds it has to exist. -/
def writeBytes (tree : FileTree) (directory : Location) (path : Path) (bytes : ByteArray) :
    Except SystemError FileTree :=
  match tree.find directory path with
  | .ok (_, .directory) => .error .isDirectory
  | .ok (location, .file _) => .ok (tree.put location (.file bytes))
  | .error .noEntry =>
      match tree.find directory path.parent with
      | .ok (_, .directory) => .ok (tree.put (path.locate directory) (.file bytes))
      | .ok (_, .file _) => .error .notDirectory
      | .error error => .error error
  | .error error => .error error

/-- Make one directory in a directory that exists; nothing may stand in its place. -/
def makeDirectory (tree : FileTree) (directory : Location) (path : Path) :
    Except SystemError FileTree :=
  match tree.reach directory path with
  | .error error => .error error
  | .ok location =>
      match tree.entry? location with
      | some _ => .error .alreadyExists
      | none => .ok (tree.put location .directory)

/-- A failure to make a directory, with its path; it is none when the directory is there. -/
def settled (tree : FileTree) (directory : Location) (path : Path) (error : SystemError) :
    Except (SystemError × Path) Unit :=
  match tree.find directory path with
  | .ok (_, .directory) => .ok ()
  | _ => .error (error, path)

/-- Make one directory, which may be there already. -/
def ensureDirectory (tree : FileTree) (directory : Location) (path : Path) :
    FileTree × Except (SystemError × Path) Unit :=
  match tree.makeDirectory directory path with
  | .ok grown => (grown, .ok ())
  | .error error => (tree, tree.settled directory path error)

/--
Make the directory of some parts, last part first, and where it lacks one, those above it
before.
-/
def makeDirectoriesAt (tree : FileTree) (directory : Location) (root : String) :
    List String → FileTree × Except (SystemError × Path) Unit
  | [] => tree.ensureDirectory directory ⟨root, []⟩
  | part :: above =>
      let path : Path := ⟨root, (part :: above).reverse⟩
      match tree.makeDirectory directory path with
      | .error .noEntry =>
          match makeDirectoriesAt tree directory root above with
          | (grown, .ok ()) => grown.ensureDirectory directory path
          | failed => failed
      | _ => tree.ensureDirectory directory path

/--
Make a directory and the directories above it.  The error names the directory that
could not be made, and directories made before it stay.
-/
def makeDirectories (tree : FileTree) (directory : Location) (path : Path) :
    FileTree × Except (SystemError × Path) Unit :=
  tree.makeDirectoriesAt directory path.root path.parts.reverse

/-- The files of a tree below a location, by their paths from there. -/
def filesBelow (tree : FileTree) (top : Location) : List (Path × ByteArray) :=
  tree.entries.entries.filterMap fun entry =>
    match entry.2, Path.relativeTo? top entry.1 with
    | .file bytes, some path => some (path, bytes)
    | _, _ => none

/-- The names in a directory. -/
def namesIn (tree : FileTree) (location : Location) : List String :=
  tree.entries.entries.filterMap fun entry =>
    match entry.1.getLast? with
    | some name => if entry.1.dropLast == location then some name else none
    | none => none

end FileTree

end PageScript.World
