import SpecForge.Document.Json.Printer
import SpecForge.Document.Json.Reader
import SpecForge.Document.File
import SpecForge.Document.Shape
import SpecForge.Name
import SpecForge.Project.Tree

/-!
# The configuration of a project

A project says in a file what it is called, which platforms it is for, and where its specifications
and the generated code are. Members that are not known are kept at every level, behind those that
are, also those whose texts no file can hold; with such a member nothing is written.
-/

namespace SpecForge.Project

/-- Members that are not known, as they are written. -/
abbrev Extras := List (Value × Value)

/-- What code of one kind is generated from, and where it goes on each platform. -/
structure Generation where
  enabled : Bool
  source : Option String
  output : Option (List (String × String))
  extras : Extras

/-- The kinds of code that a configuration speaks of. -/
inductive Target where
  | model
  | apiClient
  | theme
deriving DecidableEq

/-- What is generated. -/
structure Generations where
  models : Option Generation
  api : Option Generation
  theme : Option Generation
  extras : Extras

/-- A plugin that the project uses. -/
structure UsedPlugin where
  name : String
  version : String
  config : Option (List (String × Value))
  extras : Extras

/-- Where the specifications come from. -/
structure Specs where
  repository : Option String
  branch : Option String
  directory : Option String
  extras : Extras

/-- The configuration of a project. -/
structure Config where
  name : String
  version : String
  platforms : List String
  specs : Option Specs
  generation : Option Generations
  plugins : List UsedPlugin
  extras : Extras

/-! ## Kinds -/

namespace Target

/-- All kinds. -/
def all : List Target := [.model, .apiClient, .theme]

/-- The name of a kind on the command line. -/
def name : Target → String
  | .model => "model"
  | .apiClient => "api-client"
  | .theme => "theme"

/-- The name of a kind in the configuration. -/
def key : Target → String
  | .model => "models"
  | .apiClient => "api"
  | .theme => "theme"

/-- The kind with a name on the command line. -/
def ofName? (s : String) : Option Target := all.find? (·.name == s)

/-- Where the specifications of a new project are. -/
def defaultSource : Target → String
  | .model => "cuppa-specs/models"
  | .apiClient => "cuppa-specs/api/v1/openapi.yaml"
  | .theme => "cuppa-specs/design/tokens.json"

end Target

/-- What is generated of one kind. -/
def Generations.of (g : Generations) : Target → Option Generation
  | .model => g.models
  | .apiClient => g.api
  | .theme => g.theme

namespace Config

/-- What is generated of one kind. -/
def generationOf (c : Config) (target : Target) : Option Generation :=
  c.generation.bind fun g => g.of target

/-- What is generated of the kind with a name; a configuration that speaks of no kind at all need
not know the name. -/
def generationNamed (c : Config) (name : String) : Outcome (Option Generation) :=
  match c.generation with
  | none => .ok none
  | some g => match Target.ofName? name with
    | some target => .ok (g.of target)
    | none => .error .absent

/-- Where the specifications of one kind are. -/
def sourceOf (c : Config) (target : Target) : Option String :=
  (c.generationOf target).bind (·.source)

/-- The name of the theme: the name of the project as the name of a type. -/
def themeName (c : Config) : String :=
  let name := Name.sanitize (Name.toPascal c.name)
  if name.isEmpty then "AppTheme" else name

/-- The platforms that code is generated for: the one that is asked for, or those of the
configuration. -/
def platformsFor (c : Config) (requested : Option String) : List String :=
  match requested with
  | some s =>
    if s.isEmpty || Text.lower s == "all" then c.platforms.map Text.lower else [Text.lower s]
  | none => c.platforms.map Text.lower

/-- The version of a new project. -/
def firstVersion : String := "1.0.0"

/-- The configuration of a new project. -/
def new (name : String) (platforms : List String) (repository : Option String) : Config :=
  let generation (target : Target) : Option Generation :=
    some ⟨true, some target.defaultSource, none, []⟩
  { name := name
    version := firstVersion
    platforms := platforms
    specs := some ⟨repository, none, some "./cuppa-specs", []⟩
    generation := some ⟨generation .model, generation .apiClient, generation .theme, []⟩
    plugins := []
    extras := [] }

/-! ## Reading -/

open Shape

/-- The members whose keys are not among the known ones. -/
def unknown (known : List String) (ms : List (Value × Value)) : Extras :=
  ms.filter fun m => !known.any fun key => m.1.isText key

/-- What is generated of one kind. -/
def readGeneration : Reader Generation := fun v => do
  let ms ← record "GenerationConfig" v
  let enabled ← given "enabled" "enabled" true truth ms
  let source ← possible "source" "source" text ms
  let output ← possible "output" "output" (table text) ms
  return ⟨enabled, source, output, unknown ["enabled", "source", "output"] ms⟩

/-- What is generated. -/
def readGenerations : Reader Generations := fun v => do
  let ms ← record "GenerationTargets" v
  let models ← possible "models" "models" readGeneration ms
  let api ← possible "api" "api" readGeneration ms
  let theme ← possible "theme" "theme" readGeneration ms
  return ⟨models, api, theme, unknown ["models", "api", "theme"] ms⟩

/-- A plugin. -/
def readPlugin : Reader UsedPlugin := fun v => do
  let ms ← record "PluginConfig" v
  let name ← required "name" "name" text ms
  let version ← required "version" "version" text ms
  let config ← possible "config" "config" (table any) ms
  return ⟨name, version, config, unknown ["name", "version", "config"] ms⟩

/-- Where the specifications come from. -/
def readSpecs : Reader Specs := fun v => do
  let ms ← record "SpecsConfig" v
  let repository ← possible "repository" "repository" text ms
  let branch ← possible "branch" "branch" text ms
  let directory ← possible "local" "local" text ms
  return ⟨repository, branch, directory, unknown ["repository", "branch", "local"] ms⟩

/-- The members of a configuration that are known. -/
def knownMembers : List String :=
  ["name", "version", "platforms", "specs", "generation", "plugins"]

/-- A configuration. -/
def read : Reader Config := fun v => do
  let ms ← record "CuppaConfig" v
  let name ← required "name" "name" text ms
  let version ← given "version" "version" firstVersion text ms
  let platforms ← given "platforms" "platforms" [] (list text) ms
  let specs ← possible "specs" "specs" readSpecs ms
  let generation ← possible "generation" "generation" readGenerations ms
  let plugins ← given "plugins" "plugins" [] (list readPlugin) ms
  return ⟨name, version, platforms, specs, generation, plugins, unknown knownMembers ms⟩

/-- The name of the file that holds the configuration. -/
def fileName : String := "cuppa.config.json"

/-- The configuration that a text holds. -/
def ofText (text : String) : Outcome Config :=
  match Json.read (String.ofList (Text.unifyBreaks text.toList)) with
  | .error f => .error (Document.jsonFailure f (.configUnreadable f.cause.message f.line))
  | .ok v => match read v with
    | .error i => .error (.spec (.configInvalid i))
    | .ok c => .ok c

/-- The configuration of the project in a directory. -/
def load (t : Tree) (directory : Path) : Outcome Config := do
  match ← t.read (directory.join fileName) with
  | some text => ofText text
  | none => throw (.spec .noConfig)

/-! ## Writing -/

/-- The value of a part that may be missing. -/
def valueOr {α : Type} (f : α → Value) : Option α → Value
  | some a => f a
  | none => .null

/-- Members with text keys, and unknown ones behind them. -/
def members (known : List (String × Value)) (extras : Extras) : List (Value × Value) :=
  known.map (fun m => (.str m.1, m.2)) ++ extras

/-- An object of members that are filtered by their values. -/
def objectOf (keep : Value → Bool) (known : List (String × Value)) (extras : Extras) : Value :=
  .object ((members known extras).filter fun m => keep m.2)

/-- What is generated of one kind, as a value. -/
def generationValue (keep : Value → Bool) (g : Generation) : Value :=
  objectOf keep
    [("enabled", .bool g.enabled), ("source", .optional g.source),
      ("output", valueOr (fun ms => .record (ms.map fun m => (m.1, .str m.2))) g.output)]
    g.extras

/-- What is generated, as a value. -/
def generationsValue (keep : Value → Bool) (g : Generations) : Value :=
  objectOf keep
    [("models", valueOr (generationValue keep) g.models),
      ("api", valueOr (generationValue keep) g.api),
      ("theme", valueOr (generationValue keep) g.theme)]
    g.extras

/-- A plugin as a value. -/
def pluginValue (keep : Value → Bool) (p : UsedPlugin) : Value :=
  objectOf keep
    [("name", .str p.name), ("version", .str p.version), ("config", valueOr .record p.config)]
    p.extras

/-- Where the specifications come from, as a value. -/
def specsValue (keep : Value → Bool) (s : Specs) : Value :=
  objectOf keep
    [("repository", .optional s.repository), ("branch", .optional s.branch),
      ("local", .optional s.directory)]
    s.extras

/-- A configuration as a value, with the members that are to be kept. -/
def valueWith (keep : Value → Bool) (c : Config) : Value :=
  objectOf keep
    [("name", .str c.name), ("version", .str c.version),
      ("platforms", .list (c.platforms.map .str)), ("specs", valueOr (specsValue keep) c.specs),
      ("generation", valueOr (generationsValue keep) c.generation),
      ("plugins", .list (c.plugins.map (pluginValue keep)))]
    c.extras

/-- A configuration as a value with all its members. -/
def value (c : Config) : Value := c.valueWith fun _ => true

/-- Is the value anything but null? -/
def isPresent : Value → Bool
  | .null => false
  | _ => true

/-- The text of the file that holds a configuration. Members that are null are left out. -/
def fileText (c : Config) : String := Json.indented (c.valueWith isPresent) ++ "\n"

/-- Has the file that holds a configuration characters only? -/
def isEncodable (c : Config) : Bool := Json.isEncodable (c.valueWith isPresent)

/-- Writes the configuration into a directory. A text that cannot be encoded is noticed when the file
is open for writing, and so empty already. -/
def save (c : Config) (t : Tree) (directory : Path) : Tree.Change :=
  let file := directory.join fileName
  if c.isEncodable then t.write file c.fileText
  else (t.write file "").andThen fun t => t.stopped .unencodable

end Config

end SpecForge.Project
