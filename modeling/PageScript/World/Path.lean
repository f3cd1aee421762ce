import PageScript.Text.Search

namespace PageScript.World

/-!
# Paths

A path is a root and a list of parts.  Reading a path drops empty parts and parts
that name the place itself, and keeps the parts that lead upwards.  A location is
the list of parts of an absolute path without such steps.
-/

/-- A path as it is written, apart from parts without an effect. -/
structure Path where
  root : String
  parts : List String
  deriving Repr, DecidableEq

/-- A place in the file tree, from the top down. -/
abbrev Location := List String

namespace Path

/-- The root of a written path; exactly two slashes are a root of their own. -/
def rootOf (s : List Char) : String :=
  match s with
  | '/' :: '/' :: '/' :: _ => "/"
  | '/' :: '/' :: _ => "//"
  | '/' :: _ => "/"
  | _ => ""

/-- The path that a text writes. -/
def ofString (text : String) : Path :=
  { root := rootOf text.toList
    parts := ((Text.splitAt '/' text.toList).map String.ofList).filter fun part =>
      !(part == "" || part == ".") }

/-- The absolute path of a location. -/
def ofLocation (location : Location) : Path :=
  ⟨"/", location⟩

/-- The text of a path; a path without parts is the place itself. -/
def toString (path : Path) : String :=
  if path.root == "" && path.parts.isEmpty then
    "."
  else
    path.root ++ String.intercalate "/" path.parts

/-- Whether a path starts at the top. -/
def isAbsolute (path : Path) : Bool :=
  path.root != ""

/-- A path seen from another one; an absolute path stays as it is. -/
def seenFrom (base path : Path) : Path :=
  if path.isAbsolute then path else ⟨base.root, base.parts ++ path.parts⟩

/-- The path one level up, or the path itself at the top. -/
def parent (path : Path) : Path :=
  ⟨path.root, path.parts.dropLast⟩

/-- The last part of a path. -/
def name (path : Path) : String :=
  path.parts.getLast?.getD ""

/--
Follow the steps of a path from a location, last part first; a step up at the top has no
effect.
-/
def follow (reversed : Location) : List String → Location
  | [] => reversed
  | ".." :: rest => follow (reversed.drop 1) rest
  | part :: rest => follow (part :: reversed) rest

/-- The location of a path seen from a directory. -/
def locate (directory : Location) (path : Path) : Location :=
  (follow (if path.isAbsolute then [] else directory.reverse) path.parts).reverse

/-- Whether some part of a path holds the null character. -/
def hasNull (path : Path) : Bool :=
  path.parts.any fun part => part.toList.contains '\x00'

/-- The path from one location to a location below it or the same. -/
def relativeTo? (base location : Location) : Option Path :=
  if base.isPrefixOf location then some ⟨"", location.drop base.length⟩ else none

end Path

end PageScript.World
