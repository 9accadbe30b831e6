import SpecForge.Command.Form
import SpecForge.Plugin.Spec
import SpecForge.Project.Config

/-!
# Requests

What the words of a command line ask for. Every command has a form, and the commands that generate
code stand together in a group.
-/

namespace SpecForge.Command

/-- A text, unless it is empty. -/
def written? (s : Option String) : Option String := s.filter fun s => !s.isEmpty

/-- A new project. -/
structure InitRequest where
  name : Option String
  platforms : Option String
  template : String
  repository : Option String
  hasHistory : Bool
  packageManager : String

/-- Code from the specifications of a project. -/
structure GenerateRequest where
  target : Project.Target
  name : Option String
  source : Option String
  platform : Option String
  output : Option String
  overwrite : Bool
  isDryRun : Bool

/-- A component. -/
structure ComponentRequest where
  name : Option String
  source : Option String
  platform : String
  output : Option String
  category : Option String

/-- A plugin. -/
structure PluginRequest where
  name : String
  platform : String
  output : Option String
  template : Plugin.Template

/-- A project with everything in it. -/
structure CreateRequest where
  name : String
  platforms : Option String
  features : Option String
  plugins : Option String

/-- What a command line asks for. -/
inductive Request where
  | init (r : InitRequest)
  | generate (r : GenerateRequest)
  | component (r : ComponentRequest)
  | plugin (r : PluginRequest)
  | create (r : CreateRequest)
  | add (type : String)
  | validate

/-- An option that takes any value. -/
def anyValue {α : Type} (names : List String) (set : String → α → α) : OptionForm α :=
  ⟨names, .value [] set⟩

/-- An option that takes one of several values. -/
def oneOf {α : Type} (names choices : List String) (set : String → α → α) : OptionForm α :=
  ⟨names, .value choices set⟩

/-- An option without a value. -/
def switch {α : Type} (name : String) (set : α → α) : OptionForm α := ⟨[name], .switch set⟩

/-- An option that is taken and not used. -/
def unusedValue {α : Type} (names : List String) : OptionForm α := anyValue names fun _ r => r

/-- A switch that is taken and not used. -/
def unusedSwitch {α : Type} (name : String) : OptionForm α := switch name id

/-- The form of the command for a new project. -/
def initForm : Form InitRequest where
  command := "cuppa init"
  options :=
    [anyValue ["-p", "--platforms"] fun s r => { r with platforms := some s },
      oneOf ["-t", "--template"] ["default", "minimal"] fun s r => { r with template := s },
      anyValue ["--specs-repo"] fun s r => { r with repository := some s },
      switch "--git" fun r => { r with hasHistory := true },
      switch "--no-git" fun r => { r with hasHistory := false },
      oneOf ["--package-manager"] ["npm", "yarn", "pnpm"] fun s r => { r with packageManager := s }]
  operands := [⟨"PROJECT_NAME", false, fun s r => { r with name := some s }⟩]
  start := ⟨none, none, "default", none, true, "npm"⟩

/-- The operands of the commands that generate code. -/
def generateOperands : Project.Target → List (Operand GenerateRequest)
  | .model => [⟨"NAME", false, fun s r => { r with name := some s }⟩]
  | _ => []

/-- The form of a command that generates code. -/
def generateForm (target : Project.Target) : Form GenerateRequest where
  command := "cuppa generate " ++ target.name
  options :=
    [anyValue ["--from"] fun s r => { r with source := some s },
      anyValue ["--platform"] fun s r => { r with platform := some s },
      anyValue ["--output"] fun s r => { r with output := some s },
      switch "--overwrite" fun r => { r with overwrite := true },
      switch "--dry-run" fun r => { r with isDryRun := true }]
  operands := generateOperands target
  start := ⟨target, none, none, none, none, false, false⟩

/-- The form of the command for a component. -/
def componentForm : Form ComponentRequest where
  command := "cuppa component"
  options :=
    [anyValue ["--from"] fun s r => { r with source := some s },
      anyValue ["--platform"] fun s r => { r with platform := s },
      anyValue ["--output"] fun s r => { r with output := some s },
      anyValue ["--category"] fun s r => { r with category := some s }]
  operands := [⟨"NAME", false, fun s r => { r with name := some s }⟩]
  start := ⟨none, none, Platform.ios.name, none, none⟩

/-- The form of the command for a plugin. -/
def pluginForm : Form PluginRequest where
  command := "cuppa plugin"
  options :=
    [anyValue ["--platform"] fun s r => { r with platform := s },
      anyValue ["--output"] fun s r => { r with output := some s },
      oneOf ["--template"] (Plugin.Template.all.map (·.name)) fun s r =>
        { r with template := .ofName s }]
  operands := [⟨"NAME", true, fun s r => { r with name := s }⟩]
  start := ⟨"", Platform.ios.name, none, .basic⟩

/-- The form of the command for a project with everything in it. -/
def createForm : Form CreateRequest where
  command := "cuppa create"
  options :=
    [anyValue ["-p", "--platforms"] fun s r => { r with platforms := some s },
      unusedValue ["-t", "--template"],
      anyValue ["-f", "--features"] fun s r => { r with features := some s },
      anyValue ["--plugins"] fun s r => { r with plugins := some s },
      unusedValue ["--api-spec"],
      unusedSwitch "--examples",
      unusedSwitch "--no-examples"]
  operands := [⟨"PROJECT_NAME", true, fun s r => { r with name := s }⟩]
  start := ⟨"", none, none, none⟩

/-- The form of the command that adds to a project. -/
def addForm : Form String where
  command := "cuppa add"
  options := [unusedValue ["--platform"], unusedValue ["--config"], unusedValue ["--version"]]
  operands := [⟨"TYPE", true, fun s _ => s⟩, ⟨"NAME", true, fun _ r => r⟩]
  start := ""

/-- The form of the command that looks at specifications. -/
def validateForm : Form Unit where
  command := "cuppa validate"
  options :=
    [unusedValue ["--type"],
      unusedValue ["--schema"],
      unusedSwitch "--strict",
      unusedSwitch "--fix"]
  operands := [⟨"PATH", false, fun _ r => r⟩]
  start := ()

/-- What reads the words behind the name of a command. -/
abbrev RequestReader := List String → Except UsageError Request

/-- Reads the words for a form. -/
def Form.reader {α : Type} (form : Form α) (make : α → Request) : RequestReader :=
  fun words => (form.read words).map make

/-- Commands under one name. Whatever option stands in front of the name of a command ends the
reading. -/
structure Group where
  command : String
  options : List (OptionForm Unit)
  members : List (String × RequestReader)

namespace Group

/-- How a command of the group is written. -/
def usage (g : Group) : Usage := ⟨g.command, ["COMMAND", "[ARGS]..."]⟩

/-- The words behind the options. -/
def dropOptions (g : Group) (words : List String) : Except UsageFault (List String) := do
  let sorted ← Words.read (g.options ++ [.help]) false none words
  fillOptions sorted.given ()
  return sorted.operands

/-- The fault of a name that no command has. -/
def unknown (g : Group) (name : String) : UsageFault :=
  .unknownCommand name (Text.similar (g.members.map Prod.fst) name)

/-- The reader of the command that words begin with. A name that there is not may still be written
as an option, when two hyphens stand before it. -/
def choose (g : Group) : List String → Except UsageFault (RequestReader × List String)
  | [] => .error .missingCommand
  | name :: rest =>
    match g.members.lookup name with
    | some reader => .ok (reader, rest)
    | none => do
      let _ ← g.dropOptions (name :: rest)
      throw (g.unknown name)

/-- The reader of a command, and the words for it. -/
def sort (g : Group) (words : List String) : Except UsageFault (RequestReader × List String) :=
  if words.isEmpty then .error .noWords else do g.choose (← g.dropOptions words)

/-- The request that words make. -/
def read (g : Group) : RequestReader := fun words =>
  match g.sort words with
  | .ok (reader, rest) => reader rest
  | .error fault => .error ⟨g.usage, fault⟩

end Group

/-- The commands that generate code. -/
def generateGroup : Group where
  command := "cuppa generate"
  options := []
  members := Project.Target.all.map fun target =>
    (target.name, (generateForm target).reader .generate)

/-- All commands. -/
def commands : Group where
  command := "cuppa"
  options := [.version]
  members :=
    [("init", initForm.reader .init),
      ("generate", generateGroup.read),
      ("component", componentForm.reader .component),
      ("plugin", pluginForm.reader .plugin),
      ("create", createForm.reader .create),
      ("add", addForm.reader .add),
      ("validate", validateForm.reader fun _ => .validate)]

/-- The request that the words of a command line make. -/
def Request.read : RequestReader := commands.read

end SpecForge.Command
