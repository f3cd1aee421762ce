import PageScript.Table
import PageScript.Text.LowerCase
import PageScript.Value

namespace PageScript.Run

/-!
# Loaded frameworks

The cache remembers frameworks by name, compared without regard to case.  The
first version of a framework that is loaded stays, whatever later includes ask
for.
-/

/-- A framework with the version it was loaded in and what its loader returned. -/
structure LoadedFramework where
  name : String
  version : String
  handle : Value

/-- Frameworks by their names in small letters. -/
structure FrameworkCache where
  loaded : Table String LoadedFramework := ⟨[]⟩

/-- The name under which a framework is remembered. -/
def frameworkKey (name : String) : String :=
  String.ofList (Text.lower name.toList)

namespace FrameworkCache

/-- The framework that was loaded under a name. -/
def get? (cache : FrameworkCache) (name : String) : Option LoadedFramework :=
  cache.loaded.get? (frameworkKey name)

/-- Whether a framework has been loaded. -/
def isLoaded (cache : FrameworkCache) (name : String) : Bool :=
  cache.loaded.contains (frameworkKey name)

/-- Remember a framework. -/
def remember (cache : FrameworkCache) (framework : LoadedFramework) : FrameworkCache :=
  ⟨cache.loaded.insert (frameworkKey framework.name) framework⟩

end FrameworkCache

end PageScript.Run
