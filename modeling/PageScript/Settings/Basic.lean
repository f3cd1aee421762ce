import PageScript.Record
import PageScript.World.Path

namespace PageScript

/-!
# Settings

Settings say where a project lies, how results are shown, and how builds, loads and
plugins work.  Every setting has a default, so a project needs no settings text.
-/

open World

/-- How builds work. -/
structure BuildSettings where
  entry : String := "Mist.hsx"
  baseDirectory : Option Path := none

/-- How pages are loaded. -/
structure LoaderSettings where
  blockTag : String := "hsx"
  cloneTags : List String := ["img", "video", "canvas", "div"]
  timeout : Float := 10.0

/-- Where plugins are found. -/
structure PluginSettings where
  enabled : Bool := true
  localDirectory : String := ".hsx/plugins"

/-- The settings of one run. -/
structure Settings where
  projectRoot : Path
  configPath : Option Path := none
  jsonOutput : Bool := false
  quiet : Bool := false
  verbose : Bool := false
  logJson : Bool := false
  build : BuildSettings := {}
  loader : LoaderSettings := {}
  plugins : PluginSettings := {}

/-- The text of a path that may be missing. -/
def pathValue (path : Option Path) : Value :=
  Value.ofText? (path.map Path.toString)

namespace Settings

/-- The directory of the plugin files of a project. -/
def pluginDirectory (settings : Settings) : Path :=
  settings.projectRoot.seenFrom (Path.ofString settings.plugins.localDirectory)

/-- The settings as a record. -/
def record (settings : Settings) : Value :=
  Value.record
    [("project_root", .text settings.projectRoot.toString),
     ("config_path", pathValue settings.configPath),
     ("json_output", .truth settings.jsonOutput),
     ("quiet", .truth settings.quiet),
     ("verbose", .truth settings.verbose),
     ("log_json", .truth settings.logJson),
     ("build",
       Value.record
         [("entry", .text settings.build.entry),
          ("base_dir", pathValue settings.build.baseDirectory)]),
     ("loader",
       Value.record
         [("block_tag", .text settings.loader.blockTag),
          ("clone_tags", Value.texts settings.loader.cloneTags),
          ("timeout", .number settings.loader.timeout)]),
     ("plugins",
       Value.record
         [("enabled", .truth settings.plugins.enabled),
          ("local_dir", .text settings.plugins.localDirectory)])]

end Settings

end PageScript
