import SpecForge.Command.Generate
import SpecForge.Project.Readme

/-!
# Beginning a project

A project begins in a directory of its own, which must not hold anything yet. What the request
leaves open is asked for.
-/

namespace SpecForge.Command

open Activity

namespace InitRequest

/-- What the request says, or else what the user replies. -/
def given (said : Option String) (label usual : String) : Activity String :=
  match written? said with
  | some s => pure s
  | none => ask label usual

/-- The platforms that a text lists. -/
def selected (text : String) : List String :=
  ((Text.split ',' text).map Text.strip).filter (!·.isEmpty) |>.map Text.lower

/-- The names that are those of no platform. -/
def unknown (names : List String) : List String :=
  names.filter fun name => (Platform.ofName? name).isNone

/-- The platforms that a text lists; there must be one, and no other names. -/
def readPlatforms (text : String) : Outcome (List String) :=
  let names := selected text
  let strange := unknown names
  let known := Platform.all.map (·.name)
  if !strange.isEmpty then .error (.spec (.unknownPlatforms (", ".intercalate strange) known))
  else if names.isEmpty then .error (.spec (.unknownPlatforms text known))
  else .ok names

/-- Makes directories below another one. -/
def makeDirectories (root : Project.Path) : List String → Activity Unit
  | [] => pure ()
  | directory :: rest => do
    change fun t => t.makeDirectory (root.join directory)
    makeDirectories root rest

/-- Begins the history of a project, if that can be done. -/
def beginHistory (root : Project.Path) (canBegin : Bool) : Activity Unit :=
  if canBegin then do
    write (root.join ".gitignore") Project.ignored
    success "Git repository initialized"
  else warn "Failed to initialize git"

/-- Writes a new project. -/
def build (r : InitRequest) (root : Project.Path) (name : String) (platforms : List String)
    (canBegin : Bool) : Activity Unit := do
  let isTaken := (← exists? root) && !(← ofOutcome ((← files).isEmptyDirectory root))
  if isTaken then fail (.taken root.name)
  else do
    let chosen := Project.Selection.ofNames platforms
    change fun t => t.makeDirectory root
    success "Project directory created"
    makeDirectories root (Project.directories chosen)
    success "Project structure created"
    change fun t => (Project.Config.new name platforms r.repository).save t root
    success "Configuration file created"
    if r.hasHistory then beginHistory root canBegin
    write (root.join "README.md") (Project.readme name chosen r.packageManager)
    success "README created"

/-- Begins a project. -/
def perform (r : InitRequest) (base : Project.Path) (canBegin : Bool) : Activity Unit := do
  let name ← given r.name "Project name" "my-cuppa-app"
  let text ← given r.platforms "Platforms (comma-separated)" "ios,web"
  let platforms ← ofOutcome (readPlatforms text)
  blank
  note s!"Creating Cuppa project: {name}"
  note ("Platforms: " ++ ", ".intercalate platforms)
  note s!"Template: {r.template}"
  blank
  r.build (base.join name) name platforms canBegin
  blank
  success s!"Successfully created {name}!"
  blank
  note "Next steps:"
  lines [s!"  cd {name}",
    "  cuppa generate model User --from cuppa-specs/models/User.schema.json",
    ""]

end InitRequest

end SpecForge.Command
