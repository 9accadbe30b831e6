import SpecForge.Api.OpenApi
import SpecForge.Command.Request
import SpecForge.Command.Session
import SpecForge.Generator
import SpecForge.Model.Schema
import SpecForge.Project.Layout
import SpecForge.Project.Source
import SpecForge.Theme.Tokens

/-!
# Generating the code of a project

The specifications of a project are read from where the request or the configuration says, and code
is written for each platform. A file that is there already is kept unless it may be overwritten, and
a dry run only shows what it would write.
-/

namespace SpecForge.Command

open Activity

/-- A project: where it is, and what its configuration says. -/
structure Site where
  base : Project.Path
  config : Project.Config

namespace GenerateRequest

/-- What the specifications of a kind are called where they are missing. -/
def sourceTitle : Project.Target → String
  | .model => "Specification"
  | .apiClient => "OpenAPI spec"
  | .theme => "Design tokens"

/-- Where the specifications are. -/
def sourcePath (r : GenerateRequest) (site : Site) : Outcome Project.Path :=
  match (written? r.source).orElse fun _ => written? (site.config.sourceOf r.target) with
  | some s => .ok (site.base.join s)
  | none => .error (.spec (.noSource r.target.key))

/-- Where the specifications are, if there is anything. -/
def existingSource (r : GenerateRequest) (site : Site) : Activity Project.Path := do
  let path ← ofOutcome (r.sourcePath site)
  if ← exists? path then return path
  else fail (.spec (.noFile (sourceTitle r.target) path.text))

/-- The platforms among the names for which there is a generator. -/
def supported (target : Project.Target) (names : List String) : List Platform :=
  names.filterMap fun name => (Generator.builtin.find? target.name name).map (·.platform)

/-- The names for which there is none. -/
def unsupported (target : Project.Target) (names : List String) : List String :=
  names.filter fun name => !Generator.builtin.supports target.name name

/-- Warns of each name. -/
def warnOf : List String → Activity Unit
  | [] => pure ()
  | name :: rest => do
    warn s!"Skipping unsupported platform: {name}"
    warnOf rest

/-- The platforms that code is generated for; there must be one. -/
def platforms (r : GenerateRequest) (site : Site) : Activity (List Platform) := do
  let names := site.config.platformsFor r.platform
  if names.isEmpty then fail (.spec .noPlatforms)
  else do
    warnOf (unsupported r.target names)
    let chosen := supported r.target names
    if chosen.isEmpty then fail (.noGenerator r.target.name names) else return chosen

/-- How much of a file a dry run shows. -/
def preview (target : Project.Target) (text : String) : String :=
  match target with
  | .model => text
  | _ => String.ofList (text.toList.take 500) ++ "..."

/-- Writes the file for one platform, or shows it; how many files were written. -/
def emitFile (r : GenerateRequest) (p : Platform) (file : SourceFile) (target : Project.Path) :
    Activity Nat := do
  if (← exists? target) && !r.overwrite then do
    warn s!"  {p.name}: {file.name} already exists (use --overwrite to replace)"
    return 0
  else if r.isDryRun then do
    note s!"  {p.name}: Would write {file.name}"
    plain ("\n" ++ preview r.target file.text ++ "\n")
    return 0
  else do
    write target file.text
    success s!"  {p.name}: {target.text}"
    return 1

/-- Where the file for a platform goes. -/
def place (r : GenerateRequest) (site : Site) (p : Platform) (file : SourceFile) :
    Outcome Project.Path :=
  (Project.Layout.directory site.base r.target p.name r.output
    (site.config.generationOf r.target)).map (·.join file.name)

/-- Generates the file for each platform; how many files were written. -/
def emit (r : GenerateRequest) (site : Site)
    (sourceFile : Platform → Outcome SourceFile) : List Platform → Activity Nat
  | [] => return 0
  | p :: rest => do
    let file ← ofOutcome (sourceFile p)
    let first ← r.emitFile p file (← ofOutcome (r.place site p file))
    return first + (← r.emit site sourceFile rest)

/-- Generates the models of schema files; how many files were written. -/
def emitModels (r : GenerateRequest) (site : Site) (platforms : List Platform) :
    List Project.Path → Activity Nat
  | [] => return 0
  | path :: rest => do
    let model ← ofOutcome (((← files).document path).bind Model.ofSchema)
    plain s!"\nGenerating {model.name}..."
    let first ← r.emit site (fun p => model.sourceFile p path.name) platforms
    return first + (← r.emitModels site platforms rest)

/-- Generates models. -/
def performModel (r : GenerateRequest) (site : Site) (source : Project.Path) :
    Activity Unit := do
  let schemas ← ofOutcome ((← files).schemaFiles source r.name)
  if schemas.isEmpty then fail (.spec (.noSchemas source.text))
  else do
    let written ← r.emitModels site (← r.platforms site) schemas
    if r.isDryRun then success s!"Preview complete for {schemas.length} model(s)"
    else success s!"Generated {written} file(s) from {schemas.length} model(s)"

/-- Generates the clients of an interface. -/
def performApi (r : GenerateRequest) (site : Site) (source : Project.Path) :
    Activity Unit := do
  let api ← ofOutcome (((← files).document source).bind Api.ofDocument)
  let platforms ← r.platforms site
  plain s!"\nGenerating API client for {api.name} v{api.version}..."
  let written ← r.emit site (fun p => api.sourceFile p source.name) platforms
  if r.isDryRun then success s!"Preview complete for {api.name} API client"
  else success s!"Generated {written} API client file(s)"

/-- Generates a theme. -/
def performTheme (r : GenerateRequest) (site : Site) (source : Project.Path) :
    Activity Unit := do
  let theme ← ofOutcome (((← files).document source).bind (Theme.ofTokens · site.config.themeName))
  let platforms ← r.platforms site
  plain s!"\nGenerating theme {theme.name}..."
  let written ← r.emit site (fun p => theme.sourceFile p source.name) platforms
  if r.isDryRun then success s!"Preview complete for {theme.name} theme"
  else success s!"Generated {written} theme file(s)"

/-- Generates what is asked for. -/
def perform (r : GenerateRequest) (base : Project.Path) : Activity Unit := do
  let site : Site := ⟨base, ← ofOutcome (Project.Config.load (← files) base)⟩
  let source ← r.existingSource site
  match r.target with
  | .model => r.performModel site source
  | .apiClient => r.performApi site source
  | .theme => r.performTheme site source

end GenerateRequest

end SpecForge.Command
