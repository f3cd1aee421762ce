import PageScript.Settings.Basic
import PageScript.Validation.Coercion

namespace PageScript.Settings

/-!
# Checking settings

Merged layers are checked field by field in a fixed order.  Unknown fields of the
whole are refused behind all other issues, and unknown fields of a section are
ignored.
-/

open World Validation

/-- A path field. -/
def path : Value → Checked Path
  | .text value => .ok (Path.ofString value)
  | _ => Validation.refuse .notPath

/-- A path field that may be absent. -/
def optionalPath : Value → Checked (Option Path)
  | .null => .ok none
  | value => (path value).map some

/-- A section, whose fields are checked. -/
def asSection
    {α : Type}
    (typeName : String)
    (check : List (Value × Value) → Checked α)
    (value : Value) :
    Checked α :=
  if value.isRecord then check value.entries else Validation.refuse (.notSection typeName)

/-- The section on builds. -/
def buildSection : Value → Checked BuildSettings :=
  asSection "BuildConfig" fun entries =>
    let default : BuildSettings := {}
    Checked.both BuildSettings.mk (optional "entry" default.entry text entries)
      (optional "base_dir" default.baseDirectory optionalPath entries)

/-- The section on pages. -/
def loaderSection : Value → Checked LoaderSettings :=
  asSection "LoaderConfig" fun entries =>
    let default : LoaderSettings := {}
    Checked.apply
      (Checked.both LoaderSettings.mk (optional "block_tag" default.blockTag text entries)
        (optional "clone_tags" default.cloneTags (list text) entries))
      (optional "timeout" default.timeout number entries)

/-- The section on plugins. -/
def pluginSection : Value → Checked PluginSettings :=
  asSection "PluginsConfig" fun entries =>
    let default : PluginSettings := {}
    Checked.both PluginSettings.mk (optional "enabled" default.enabled truth entries)
      (optional "local_dir" default.localDirectory text entries)

/-- The names of all fields in order. -/
def fieldNames : List String :=
  ["project_root", "config_path", "json_output", "quiet", "verbose", "log_json", "build", "loader",
   "plugins"]

/-- Refuse fields with unknown names. -/
def knownOnly (entries : List (Value × Value)) : Checked Unit :=
  let unknown := (entries.map fun entry => entry.1.displayString).filter (!fieldNames.contains ·)
  if unknown.isEmpty then
    .ok ()
  else
    .error (unknown.map fun name => ⟨.extraField, [name]⟩)

/-- The settings that merged layers give. -/
def ofEntries (entries : List (Value × Value)) : Checked Settings :=
  let flag := fun name => optional name false truth entries
  let paths :=
    Checked.both Settings.mk (required "project_root" path entries)
      (optional "config_path" none optionalPath entries)
  let shown :=
    Checked.apply
      (Checked.apply (Checked.apply (Checked.apply paths (flag "json_output")) (flag "quiet"))
        (flag "verbose"))
      (flag "log_json")
  let complete :=
    Checked.apply
      (Checked.apply (Checked.apply shown (optional "build" {} buildSection entries))
        (optional "loader" {} loaderSection entries))
      (optional "plugins" {} pluginSection entries)
  Checked.both (fun settings _ => settings) complete (knownOnly entries)

end PageScript.Settings
