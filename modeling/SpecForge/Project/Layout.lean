import SpecForge.Name
import SpecForge.Platform
import SpecForge.Project.Config

/-!
# Where generated code goes

A directory that is asked for comes first, then the one in the configuration, and then the layout of
a project, in which every platform has its own place.
-/

namespace SpecForge.Project.Layout

/-- The directory of the sources of a platform. -/
def sourceRoot : Platform → List String
  | .ios => ["iOS", "Sources"]
  | .android => ["Android", "src", "main", "kotlin"]
  | .web => ["Web", "src"]

/-- The directory of one kind of code among the sources. -/
def folder (target : Target) (p : Platform) : String :=
  let name := match target with
    | .model => "models"
    | .apiClient => "api"
    | .theme => "theme"
  match p with
  | .ios => if target == .apiClient then "API" else Name.capitalize name
  | _ => name

/-- The directory under that of a platform which is none of the platforms there are. -/
def strangeFolder : Target → List String
  | .model => []
  | .apiClient => ["api"]
  | .theme => ["theme"]

/-- The place of one kind of code on a platform. -/
def place (base : Path) (target : Target) (platform : String) : Path :=
  match Platform.ofName? platform with
  | some p => base.joinAll (sourceRoot p ++ [folder target p])
  | none => base.joinAll (["generated", platform] ++ strangeFolder target)

/-- A directory that is asked for, unless none is or it has no name. -/
def requested? (base : Path) (requested : Option String) : Option Path :=
  (requested.filter fun s => !s.isEmpty).map base.join

/-- The directory for a platform in the configuration. -/
def configured? (base : Path) (generation : Option Generation) (platform : String) :
    Option Path := do
  let output ← (← generation).output
  return base.join (← output.lookup platform)

/-- A directory that is asked for or configured, resolved, or else the one of the layout. -/
def resolvedOr (chosen : Option Path) (usual : Outcome Path) : Outcome Path :=
  match chosen with
  | some p => p.resolved
  | none => usual

/-- Where code of one kind goes on a platform. -/
def directory (base : Path) (target : Target) (platform : String) (requested : Option String)
    (generation : Option Generation) : Outcome Path :=
  resolvedOr ((requested? base requested).orElse fun _ => configured? base generation platform)
    (.ok (place base target platform))

/-- The place of the kind of code with a name. -/
def placeNamed (base : Path) (name platform : String) : Outcome Path :=
  match Target.ofName? name with
  | some target => .ok (place base target platform)
  | none => .error .absent

/-- Where code of the kind with a name goes. -/
def directoryNamed (base : Path) (name platform : String) (requested : Option String)
    (config : Option Config) : Outcome Path :=
  resolvedOr (requested? base requested) do
    let generation ← match config with
      | some c => c.generationNamed name
      | none => pure none
    resolvedOr (configured? base generation platform) (placeNamed base name platform)

/-- The place of components of a category on a platform. -/
def componentPlace (base : Path) (platform category : String) : Path :=
  match Platform.ofName? platform with
  | some .ios =>
    base.joinAll (sourceRoot .ios ++ ["CuppaUI", "Generated", Name.capitalize category])
  | some .android => base.joinAll (sourceRoot .android ++ ["ui", "components", category])
  | some .web => base.joinAll (sourceRoot .web ++ ["components", category])
  | none => base.joinAll ["generated", "components", category]

/-- Where a component goes. -/
def componentDirectory (base : Path) (platform category : String) (requested : Option String) :
    Outcome Path :=
  resolvedOr (requested? base requested) (.ok (componentPlace base platform category))

/-- The name of the directory for plugins of a platform. -/
def pluginFolder (platform : String) : String :=
  if platform == Platform.ios.name then "iOS" else platform

/-- Where a plugin goes. -/
def pluginDirectory (base : Path) (platform name : String) (requested : Option String) :
    Outcome Path :=
  resolvedOr (requested? base requested)
    (.ok (base.joinAll ["Plugins", pluginFolder platform, name]))

end SpecForge.Project.Layout
