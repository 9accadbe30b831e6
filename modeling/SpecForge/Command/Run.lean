import SpecForge.Command.Init
import SpecForge.Command.Single
import SpecForge.Document.File

/-!
# Running a command

The words of a command line, the files and what the user is going to type give what is shown, the
status with which the command ends, and the files behind it. A failure that can be put into words
for the user is shown; any other one is left to the caller.

A command that runs on a part of the files shows which other places matter to it: those that its
request names, and those that it would change.
-/

namespace SpecForge.Command

open Activity

/-- Where commands run, and whether the history of a project can be begun there. -/
structure Environment where
  directory : Project.Path
  canBeginHistory : Bool

/-- What comes of a command. -/
structure Report where
  status : Nat
  output : String
  errors : String
  tree : Project.Tree
  unreported : Option Failure
  isUnanswered : Bool

/-- What is said of a command that cannot be carried out yet. -/
def notYet (command : String) : Activity Unit :=
  warn ("`cuppa " ++ command ++ "` is not yet implemented")

/-- Says which other commands do the work. -/
def CreateRequest.perform (r : CreateRequest) : Activity Unit := do
  notYet "create"
  note "Use `cuppa init` for now, then add features with `cuppa add`"
  blank
  note "Equivalent commands:"
  let platforms := (written? r.platforms).getD "ios,web"
  let more (kind : String) (names : Option String) : List String :=
    ((written? names).map fun s => s!"  cuppa add {kind} {s}").toList
  lines (s!"  cuppa init {r.name} --platforms {platforms}" ::
    more "feature" r.features ++ more "plugin" r.plugins)

/-- Carries out a request. -/
def Request.perform (env : Environment) : Request → Activity Unit
  | .init r => r.perform env.directory env.canBeginHistory
  | .generate r => r.perform env.directory
  | .component r => r.perform env.directory
  | .plugin r => r.perform env.directory
  | .create r => r.perform
  | .add type => do
    notYet s!"add {type}"
    note "This feature will be available in a later release"
  | .validate => do
    notYet "validate"
    note "This feature will be available in a later release"

/-- What stands before the wording of a failure. -/
def Request.failureTitle : Request → String
  | .generate _ => "Generation failed: "
  | .component _ => "Component generation failed: "
  | .plugin _ => "Plugin generation failed: "
  | _ => ""

/-- Is the failure put into words for the user? -/
def isReported : Failure → Bool
  | .spec _ => true
  | .unsupported _ _ => true
  | .noGenerator _ _ => true
  | .taken _ => true
  | .directory _ => true
  | .occupied _ => true
  | .throughFile _ => true
  | .longName _ => true
  | _ => false

/-- The lines of a text. -/
def typedLines (input : String) : List String :=
  let lines := Text.split '\n' (String.ofList (Text.unifyBreaks input.toList))
  if lines.getLastD "" == "" then lines.dropLast else lines

/-- What has been said in a session. -/
def Session.output (s : Session) : String := String.join (s.notices.reverse.map Notice.text)

/-- The report of a request that was carried out, or stopped. -/
def Request.report (r : Request) (ending : Except Stop Unit × Session) : Report :=
  let (result, s) := ending
  match result with
  | .ok () => ⟨0, s.output, "", s.tree, none, false⟩
  | .error .unanswered => ⟨1, s.output, "Aborted!\n", s.tree, none, true⟩
  | .error (.failed f) =>
    if isReported f then
      ⟨1, s.output, Text.plain ("✗ " ++ r.failureTitle ++ f.message) ++ "\n", s.tree, none, false⟩
    else ⟨1, s.output, "", s.tree, some f, false⟩

/-- The report of words that lead to no command. -/
def UsageError.report (e : UsageError) (t : Project.Tree) : Report :=
  match e.fault with
  | .help => ⟨0, e.text, "", t, none, false⟩
  | .version => ⟨0, e.text, "", t, none, false⟩
  | _ => ⟨2, "", e.text, t, none, false⟩

/-- Runs the command that words make. -/
def run (env : Environment) (t : Project.Tree) (input : String) (words : List String) : Report :=
  match Request.read words with
  | .error e => e.report t
  | .ok r => r.report ((r.perform env).perform ⟨t, [], typedLines input⟩)

/-! ## Places of a command -/

/-- The paths of the files that a request reads, besides the configuration. -/
def Request.sources (base : Project.Path) (config : Option Project.Config) :
    Request → List Project.Path
  | .init r => (r.name.map base.join).toList
  | .generate r =>
    match config.map fun c => r.sourcePath ⟨base, c⟩ with
    | some (.ok p) => [p]
    | _ => []
  | .component r => ((written? r.source).map base.join).toList
  | _ => []

/-- The paths that the words of a command line lead to. -/
def sources (base : Project.Path) (t : Project.Tree) (words : List String) : List Project.Path :=
  match Request.read words with
  | .ok r => r.sources base (Project.Config.load t base).toOption
  | .error _ => []

/-- The entries of a tree that another one does not have. -/
def newEntries (before after : Project.Tree) : List (List String × Project.Entry) :=
  after.entries.filter fun e => before.get? e.1 != some e.2

end SpecForge.Command
