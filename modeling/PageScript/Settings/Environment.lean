import PageScript.Fault
import PageScript.Json.Reader
import PageScript.Settings.Layer
import PageScript.Text.LowerCase

namespace PageScript.Settings

/-!
# Settings from the environment

A variable whose name is a prefix and the name of a field sets that field, in
capitals or small letters.  A section is written as a data text, or field by field
by variables whose names join the section and the field by two underscores.  Lists
are written as data texts.
-/

/-- The prefix of all variables, in small letters. -/
def namePrefix : String :=
  "hsx_"

/-- The mark between the names of a section and its fields. -/
def nestingMark : List Char :=
  ['_', '_']

/-- The fields that a variable sets by its text. -/
def plainFields : List String :=
  ["project_root", "config_path", "json_output", "quiet", "verbose", "log_json"]

/-- The sections and their fields. -/
def sections : List (String × List String) :=
  [("build", ["entry", "base_dir"]), ("loader", ["block_tag", "clone_tags", "timeout"]),
   ("plugins", ["enabled", "local_dir"])]

/-- Whether a field of a section is a list. -/
def isListField (sectionName field : String) : Bool :=
  sectionName == "loader" && field == "clone_tags"

/--
The variables with their names in small letters; of two names that become one the last value
counts.
-/
def smallVariables (environment : Table String String) : Table String String :=
  Table.ofList (environment.entries.map fun entry =>
    (String.ofList (Text.lower entry.1.toList), entry.2))

/-- The pieces of a name between marks, with `fuel` bounding their number. -/
def splitNesting : Nat → List Char → List Char → List String
  | 0, taken, rest => [String.ofList (taken.reverse ++ rest)]
  | _ + 1, taken, [] => [String.ofList taken.reverse]
  | fuel + 1, taken, c :: rest =>
      if nestingMark.isPrefixOf (c :: rest) then
        String.ofList taken.reverse :: splitNesting fuel [] (rest.drop 1)
      else
        splitNesting fuel (c :: taken) rest

/-- The names that a variable joins behind the name of a section, if it is about the section. -/
def nestedNames? (sectionName variableName : String) : Option (List String) :=
  let start := namePrefix.toList ++ sectionName.toList ++ nestingMark
  if start.isPrefixOf variableName.toList then
    let rest := variableName.toList.drop start.length
    some (splitNesting (rest.length + 1) [] rest)
  else
    none

/-- Put a value at nested names; a value in the way keeps its place. -/
def putNested (value : Value) : List String → List (Value × Value) → List (Value × Value)
  | [], entries => entries
  | [name], entries => Table.insertEntry (.text name) value entries
  | name :: rest, entries =>
      match (Table.mk entries).get? (.text name) with
      | none => Table.insertEntry (.text name) (.table (putNested value rest [])) entries
      | some (.table inner) =>
          Table.insertEntry (.text name) (.table (putNested value rest inner)) entries
      | some _ => entries

/-- The value that a variable gives to a field of a section. -/
def nestedValue (sectionName : String) (names : List String) (text : String) :
    Except Fault Value :=
  match names with
  | [name] =>
      if isListField sectionName name && !text.isEmpty then
        match Json.read? text.toList with
        | some value => .ok value
        | none => .error (.settingsValue sectionName)
      else
        .ok (.text text)
  | _ => .ok (.text text)

/-- The fields of a section that variables give one by one. -/
def nestedFields (sectionName : String) (entries : List (Value × Value)) :
    List (String × String) → Except Fault (List (Value × Value))
  | [] => .ok entries
  | (variableName, text) :: rest =>
      match nestedNames? sectionName variableName with
      | none => nestedFields sectionName entries rest
      | some names => do
          let value ← nestedValue sectionName names text
          nestedFields sectionName (putNested value names entries) rest

/-- The fields of a section under their own names, where they are spelled with capitals. -/
def namedAsFields (known : List String) (entries : List (Value × Value)) : List (Value × Value) :=
  (Table.ofList (entries.map fun entry =>
    let name := String.ofList (Text.lower entry.1.displayString.toList)
    if known.contains name then (.text name, entry.2) else entry)).entries

/-- The value that the environment gives for a section, if it gives one. -/
def sectionValue?
    (environment : Table String String)
    (sectionName : String)
    (known : List String) :
    Except Fault (Option Value) := do
  let nested := nestedFields sectionName [] environment.entries
  match environment.get? (namePrefix ++ sectionName) with
  | none => do
      let entries ← nested
      pure (if entries.isEmpty then none else some (.table (namedAsFields known entries)))
  | some text =>
      match Json.read? text.toList with
      | none => throw (.settingsValue sectionName)
      | some .null => pure none
      | some (.table entries) => do
          let fields ← nested
          pure (some (.table (namedAsFields known (laidOverEntries fields entries))))
      | some value => pure (some value)

/-- The sections that the environment gives, in order. -/
def sectionEntries (environment : Table String String) :
    List (String × List String) → Except Fault (List (Value × Value))
  | [] => .ok []
  | (sectionName, known) :: rest => do
      let value ← sectionValue? environment sectionName known
      let others ← sectionEntries environment rest
      pure ((value.map fun found => (Value.text sectionName, found)).toList ++ others)

/-- The layer of settings that the environment gives. -/
def environmentLayer (environment : Table String String) : Except Fault Value := do
  let named := smallVariables environment
  let plain :=
    plainFields.filterMap fun name =>
      (named.get? (namePrefix ++ name)).map fun text => (Value.text name, Value.text text)
  let nested ← sectionEntries named sections
  pure (.table (plain ++ nested))

end PageScript.Settings
