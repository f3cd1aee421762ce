import PageScript.Fault
import PageScript.Text.Line
import PageScript.World.Basic

namespace PageScript.World

/-!
# Using files

Paths in scripts are seen from a base directory, and a leading tilde stands for
the home directory.  Resolving a path removes its steps upwards whether or not the
directories exist.  Texts are read with unified line ends, and copying a file
makes the directories above its destination.
-/

namespace Surroundings

/-- The homes of the users that the system itself has. -/
def systemHomes : List (String × String) :=
  [("root", "/root"), ("daemon", "/usr/sbin"), ("bin", "/usr/bin"), ("sys", "/dev"),
   ("sync", "/usr/bin"), ("games", "/usr/games"), ("man", "/var/cache/man"),
   ("lp", "/var/spool/lpd"), ("mail", "/var/mail"), ("news", "/var/spool/news"),
   ("uucp", "/var/spool/uucp"), ("proxy", "/usr/bin"), ("www-data", "/var/www"),
   ("backup", "/var/backups"), ("list", "/var/list"), ("irc", "/run/ircd"),
   ("_apt", "/nonexistent"), ("nobody", "/nonexistent")]

/--
The home directory without slashes at its end, or the top; a home that starts with a tilde
is none.
-/
def ownHome? (surroundings : Surroundings) : Option String :=
  let home := (surroundings.home.toList.reverse.dropWhile (· = '/')).reverse
  if home.head? == some '~' then none
  else some (if home.isEmpty then "/" else String.ofList home)

/--
The home that a part with a leading tilde stands for: one's own, or that of a user of the
system.
-/
def homeOf? (surroundings : Surroundings) (part : String) : Option Path :=
  let home :=
    if part == "~" then surroundings.ownHome?
    else (systemHomes.find? fun user => "~" ++ user.1 == part).map (·.2)
  home.map Path.ofString

/-- A path with its leading tilde replaced. -/
def expandHome (surroundings : Surroundings) (path : Path) : Except Fault Path :=
  if path.isAbsolute then
    .ok path
  else
    match path.parts with
    | [] => .ok path
    | first :: rest =>
        if first.toList.head? == some '~' then
          (surroundings.homeOf? first).elim (.error .unknownHome) fun home =>
            .ok ⟨home.root, home.parts ++ rest⟩
        else
          .ok path

/-- The location of a path seen from the working directory. -/
def locate (surroundings : Surroundings) (path : Path) : Except Fault Location :=
  if path.hasNull then .error .nullCharacter else .ok (path.locate surroundings.directory)

/-- The location of a written path seen from a base directory. -/
def resolve (surroundings : Surroundings) (text : String) (base : Option Path) :
    Except Fault Location :=
  match surroundings.expandHome (Path.ofString text) with
  | .error fault => .error fault
  | .ok path =>
      surroundings.locate ((base.getD (Path.ofLocation surroundings.directory)).seenFrom path)

/-- The text of the path of a location. -/
def locationText (location : Location) : String :=
  (Path.ofLocation location).toString

/-- The location of a written path that has to lead to something. -/
def resolveExisting (surroundings : Surroundings) (text : String) (base : Option Path) :
    Except Fault Location :=
  match surroundings.resolve text base with
  | .error fault => .error fault
  | .ok location =>
      match surroundings.files.exists? surroundings.directory (Path.ofLocation location) with
      | .error error => .error (.system error (locationText location))
      | .ok true => .ok location
      | .ok false => .error (.fileNotFound (locationText location))

/-- Name the path of a system error. -/
def named {α : Type} (path : Path) (outcome : Except SystemError α) : Except Fault α :=
  outcome.mapError fun error => .system error path.toString

/-- Make the directory that holds a path; directories made before a failure stay. -/
def makeParent (surroundings : Surroundings) (path : Path) : Surroundings × Except Fault Unit :=
  if path.parent.hasNull then
    (surroundings, .error .nullCharacter)
  else
    let made := surroundings.files.makeDirectories surroundings.directory path.parent
    ({ surroundings with files := made.1 },
      made.2.mapError fun failure => .system failure.1 failure.2.toString)

/-- Write a text to a file. -/
def writeText (surroundings : Surroundings) (path : Path) (text : String) :
    Except Fault Surroundings :=
  if path.hasNull then
    .error .nullCharacter
  else
    (named path
      (surroundings.files.writeBytes surroundings.directory path text.toUTF8)).map
        fun files => { surroundings with files := files }

/-- Copy the bytes of one location to another. -/
def copyBytes (surroundings : Surroundings) (source destination : Location) :
    Except Fault Surroundings :=
  if source = destination then
    .error (.sameFile (locationText source) (locationText destination))
  else
    match named (Path.ofLocation source)
        (surroundings.files.readBytes surroundings.directory (Path.ofLocation source)) with
    | .error fault => .error fault
    | .ok bytes =>
        (named (Path.ofLocation destination)
          (surroundings.files.writeBytes surroundings.directory (Path.ofLocation destination)
            bytes)).map fun files => { surroundings with files := files }

/--
Copy a file, making the directories above its destination; the directories stay when the
copy fails.
-/
def copyFile (surroundings : Surroundings) (source destination : String) (base : Option Path) :
    Surroundings × Except Fault Location :=
  match surroundings.resolveExisting source base with
  | .error fault => (surroundings, .error fault)
  | .ok from_ =>
      match surroundings.resolve destination base with
      | .error fault => (surroundings, .error fault)
      | .ok target =>
          match surroundings.makeParent (Path.ofLocation target) with
          | (prepared, .error fault) => (prepared, .error fault)
          | (prepared, .ok ()) =>
              match prepared.copyBytes from_ target with
              | .error fault => (prepared, .error fault)
              | .ok copied => (copied, .ok target)

/-- The text of a file, with unified line ends. -/
def readText (surroundings : Surroundings) (path : Path) : Except Fault String :=
  if path.hasNull then
    .error .nullCharacter
  else
    match named path (surroundings.files.readBytes surroundings.directory path) with
    | .error fault => .error fault
    | .ok bytes =>
        match String.fromUTF8? bytes with
        | some text => .ok (String.ofList (Text.unifyLineEnds text.toList))
        | none => .error .undecodable

/-- Whether a path leads to a file. -/
def isFile (surroundings : Surroundings) (path : Path) : Except Fault Bool :=
  if path.hasNull then
    .ok false
  else
    named path (surroundings.files.isFile? surroundings.directory path)

/-- Whether a path leads to a directory. -/
def isDirectory (surroundings : Surroundings) (path : Path) : Except Fault Bool :=
  if path.hasNull then
    .ok false
  else
    named path (surroundings.files.isDirectory? surroundings.directory path)

/-- A path for a report: seen from a root that it lies below, and as written otherwise. -/
def displayPath (surroundings : Surroundings) (path : Path) (root : Option Path) : String :=
  match root with
  | none => path.toString
  | some top =>
      match surroundings.locate path, surroundings.locate top with
      | .ok location, .ok base =>
          match Path.relativeTo? base location with
          | some relative => relative.toString
          | none => path.toString
      | _, _ => path.toString

end Surroundings

end PageScript.World
