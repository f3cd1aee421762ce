import PageScript.Settings.Checking
import PageScript.Settings.Environment
import PageScript.Toml.Reader
import PageScript.World.Access

namespace PageScript.Settings

/-!
# Finding the settings text

The settings text of a directory is the nearest one on the way up.  A variable of
the environment can name another file instead, and then nothing is looked for.
-/

open World

/-- The variable that names the settings text. -/
def pathVariable : String :=
  "HSX_CONFIG"

/-- Where the settings text of a directory may lie, best place first. -/
def candidates : List (List String) :=
  [["hsx.toml"], [".hsx", "hsx.toml"]]

/-- The path itself, if it leads to a file. -/
def fileOnly? (surroundings : Surroundings) (path : Path) : Except Fault (Option Path) :=
  (surroundings.isFile path).map fun found => if found then some path else none

/-- The first of some paths that leads to a file. -/
def firstFile? (surroundings : Surroundings) : List Path → Except Fault (Option Path)
  | [] => .ok none
  | path :: rest => do
      match ← fileOnly? surroundings path with
      | some found => pure (some found)
      | none => firstFile? surroundings rest

/-- The directories from a location up to the top. -/
def directoriesUp (location : Location) : List Location :=
  ((List.range (location.length + 1)).map location.take).reverse

/-- The places of settings texts from a location up to the top. -/
def placesUp (location : Location) : List Path :=
  (directoriesUp location).flatMap fun directory =>
    candidates.map fun place => Path.ofLocation (directory ++ place)

/-- The settings text in effect for a directory, which is the working directory if none is given. -/
def find? (surroundings : Surroundings) (start : Option Path) : Except Fault (Option Path) :=
  match surroundings.environment.get? pathVariable with
  | some "" => walk
  | some named => fileOnly? surroundings (Path.ofString named)
  | none => walk
where
  /-- Look for a settings text on the way up. -/
  walk : Except Fault (Option Path) := do
    let location ← surroundings.locate (start.getD (Path.ofString ""))
    firstFile? surroundings (placesUp location)

/-- The project that a settings text belongs to, and the working directory without one. -/
def projectRootOf (surroundings : Surroundings) : Option Path → Path
  | none => Path.ofLocation surroundings.directory
  | some path =>
      let directory := (path.locate surroundings.directory).dropLast
      Path.ofLocation (if directory.getLast? == some ".hsx" then directory.dropLast else directory)

/-!
# Loading settings

What a caller states goes over the environment, the environment over the settings
text, and the settings text over the defaults.
-/

/-- What a caller states about settings. -/
structure Request where
  /-- The path of the settings text; an empty one counts as none. -/
  configPath : Option String := none
  projectRoot : Option Path := none
  /-- The fields that the caller sets. -/
  flags : List (String × Value) := []

/-- The settings that a settings text gives. -/
def readLayer (path : Path) (text : String) : Except Fault Value :=
  match Toml.read text.toList with
  | .ok value => .ok value
  | .error (.tooManyDigits count) => .error (.tooManyDigits count)
  | .error (.refused reason remaining) =>
      .error (.settingsText path.toString (Toml.refusalText text.toList reason remaining))

/-- The layer of the settings text at a path, which is empty without one. -/
def textLayer (surroundings : Surroundings) : Option Path → Except Fault Value
  | none => .ok (.table [])
  | some path => do
      let text ← surroundings.readText path
      readLayer path text

/-- The path of the settings text in effect for a request. -/
def Request.findPath (request : Request) (surroundings : Surroundings) :
    Except Fault (Option Path) :=
  match request.configPath with
  | none => find? surroundings request.projectRoot
  | some "" => find? surroundings request.projectRoot
  | some named => fileOnly? surroundings (Path.ofString named)

/-- The layer that a caller states. -/
def Request.layer (request : Request) (root : Path) (configPath : Option Path) : Value :=
  (Value.record
    [("project_root", .text root.toString), ("config_path", pathValue configPath)]).extended
      request.flags

/-- The settings in effect for a request. -/
def load (surroundings : Surroundings) (request : Request) : Except Fault Settings := do
  let configPath ← request.findPath surroundings
  let root := request.projectRoot.getD (projectRootOf surroundings configPath)
  let fromText ← textLayer surroundings configPath
  let fromEnvironment ← environmentLayer surroundings.environment
  let layers := merged [request.layer root configPath, fromEnvironment, fromText]
  (ofEntries layers.entries).mapError .invalid

end PageScript.Settings
