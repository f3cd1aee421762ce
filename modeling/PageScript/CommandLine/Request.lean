import PageScript.CommandLine.Reading
import PageScript.Script.Grammar
import PageScript.Service.Build
import PageScript.Settings.Loading

namespace PageScript.CommandLine

/-!
# What the command line asks for

The options of the program become a request for settings, and a command with its
options and its argument becomes a request to a service.  Options that name a
directory or a file are refused when the other one stands there.
-/

open World

/-- What is asked of a service. -/
inductive Order where
  | build (request : Service.BuildRequest)
  | load (url : String) (output : Option Path)
  | parse (source : String) (grammar : Script.Grammar)

/-- Why no service is asked. -/
inductive Refusal where
  /-- The command line is wrong. -/
  | usage (error : UsageError)
  /-- The system refuses a path. -/
  | fault (fault : Fault)

namespace Reading

/-- The request for settings: every flag is stated, whether or not it is given. -/
def settingsRequest (reading : Reading) : Settings.Request :=
  { configPath := reading.value? "config"
    flags :=
      [("json_output", .truth (reading.has "json")), ("quiet", .truth (reading.has "quiet")),
       ("verbose", .truth (reading.has "verbose")),
       ("log_json", .truth (reading.has "log-json"))] }

/-- The path that is the value of an option. -/
def path? (reading : Reading) (name : String) : Option Path :=
  (reading.value? name).map Path.ofString

end Reading

/-- Whether a written path can only lead to a directory. -/
def namesDirectory (written : String) : Bool :=
  match (Text.splitAt '/' written.toList).reverse with
  | _ :: [] => false
  | last :: _ => last.isEmpty || last == ['.']
  | [] => false

/-- What a written path leads to, if it leads to something. -/
def entryAt (surroundings : Surroundings) (written : String) : Except Fault (Option Entry) :=
  if written.toList.contains '\x00' then
    .error .nullCharacter
  else if written.isEmpty || FileTree.pathLimit ≤ written.utf8ByteSize then
    .ok none
  else
    match surroundings.files.find surroundings.directory (Path.ofString written) with
    | .ok (_, .directory) => .ok (some .directory)
    | .ok (_, entry) => .ok (if namesDirectory written then none else some entry)
    | .error _ => .ok none

/-- Check that nothing else stands where an option expects a directory or a file. -/
def checkValue (surroundings : Surroundings) (option : OptionRule) (form : ValueForm)
    (value : String) : Except Refusal Unit :=
  match form, (if form = .text then .ok none else entryAt surroundings value) with
  | _, .error fault => .error (.fault fault)
  | .directory, .ok (some (.file _)) => .error (.usage (.isFile option value))
  | .file, .ok (some .directory) => .error (.usage (.isDirectory option value))
  | _, .ok _ => .ok ()

/-- Check the value of an option that is given. -/
def checkOption (surroundings : Surroundings) (reading : Reading) (option : OptionRule) :
    Except Refusal Unit :=
  match option.role, reading.value? option.name with
  | .value form, some value => checkValue surroundings option form value
  | _, _ => .ok ()

/-- The argument of a command, which may be missing if it is not required. -/
def argumentOf (rule : ArgumentRule) (reading : Reading) : Except Refusal (Option String) :=
  match reading.others with
  | [] =>
      if rule.required then .error (.usage (.missingArgument rule.placeholder)) else .ok none
  | first :: _ => .ok (some first)

/-- Refuse more than one argument. -/
def checkExtra (reading : Reading) : Except Refusal Unit :=
  match reading.others.drop 1 with
  | [] => .ok ()
  | extra => .error (.usage (.extraArguments extra))

/-- The written path of a source, which the system has to be able to look up. -/
def sourceOf (surroundings : Surroundings) (written : String) : Except Refusal String :=
  match entryAt surroundings written with
  | .ok _ => .ok (Path.ofString written).toString
  | .error fault => .error (.fault fault)

namespace Subcommand

/-- The order of a command whose options are in place. -/
def orderOf (command : Subcommand) (surroundings : Surroundings) (reading : Reading)
    (argument : Option String) : Except Refusal Order :=
  match command with
  | .build => do
      let source ← argument.mapM (sourceOf surroundings)
      pure (.build ⟨source, reading.path? "base-dir", reading.path? "emit-html"⟩)
  | .load => .ok (.load (argument.getD "") (reading.path? "output"))
  | .parse => do
      let source ← sourceOf surroundings (argument.getD "")
      pure (.parse source (if reading.has "runtime" then .runtime else .build))

/-- The order of a command with what was read behind its name. -/
def order (command : Subcommand) (surroundings : Surroundings) (reading : Reading) :
    Except Refusal Order := do
  reading.options.forM (checkOption surroundings reading)
  let argument ← argumentOf command.argument reading
  let order ← command.orderOf surroundings reading argument
  checkExtra reading
  pure order

end Subcommand

end PageScript.CommandLine
