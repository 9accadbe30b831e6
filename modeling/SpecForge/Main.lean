import SpecForge.Command.Run

/-!
# The program

Runs a command on the files of the working directory. Only what the command looks at is read, and
only what it has changed is written. No other program is started, so that the history of a new
project is left to the user.
-/

namespace SpecForge

/-- The path as the operating system takes it. -/
def onDisk (p : Project.Path) := (fun here => here / p.text) <$> IO.currentDir

/-- What stands at a place; a file that is no text is seen as an empty one. -/
def entryOnDisk (place : List String) : IO (Option Project.Entry) := do
  let path ← onDisk (.ofSteps place)
  if ← path.isDir then return some .directory
  else if ← path.pathExists then
    try return some (.file (← IO.FS.readFile path))
    catch _ => return some (.file "")
  else return none

/-- Adds what stands at a place to the tree. -/
def see (t : Project.Tree) (place : List String) : IO Project.Tree := do
  match ← entryOnDisk place with
  | some e => return if place.isEmpty then t else t.put place e
  | none => return t

/-- Adds what stands at a path and on the way to it, and what a directory at the path holds. -/
def seeAround (t : Project.Tree) (p : Project.Path) : IO Project.Tree := do
  let steps := p.resolve.steps
  let mut t := t
  for n in List.range steps.length do
    t ← see t (steps.take (n + 1))
  let path ← onDisk p
  if ← path.isDir then
    for e in ← path.readDir do
      t ← see t (steps ++ [e.fileName])
  return t

/-- Runs a command, and again as long as it changes places that it has not seen. -/
partial def runSeeing (env : Command.Environment) (t : Project.Tree) (input : String)
    (words : List String) : IO (Project.Tree × Command.Report) := do
  let report := Command.run env t input words
  let mut seen := t
  for (place, _) in Command.newEntries t report.tree do
    if (t.get? place).isNone then
      seen ← see seen place
  if seen.entries.length == t.entries.length then return (t, report)
  else runSeeing env seen input words

/-- Shows what the command says and hands it what the user types. -/
partial def converse (env : Command.Environment) (t : Project.Tree) (input : String) (shown : Nat)
    (words : List String) : IO (Project.Tree × Command.Report) := do
  let (t, report) ← runSeeing env t input words
  IO.print (String.ofList (report.output.toList.drop shown))
  (← IO.getStdout).flush
  let line ← if report.isUnanswered then (← IO.getStdin).getLine else pure ""
  if line.isEmpty then return (t, report)
  else
    let reply := Text.dropEndChar '\n' line
    converse env t (input ++ reply ++ "\n") (report.output.length + reply.length + 1) words

/-- Writes an entry to disk. -/
def writeEntry (place : List String) : Project.Entry → IO Unit
  | .directory => IO.FS.createDirAll (Project.Path.ofSteps place).text
  | .file text => IO.FS.writeFile (Project.Path.ofSteps place).text text

end SpecForge

open SpecForge in
/-- Runs the command that the arguments make. -/
def main (words : List String) : IO UInt32 := do
  let base := Project.Path.root.join (← IO.currentDir).toString
  let mut t ← seeAround .empty (base.join Project.Config.fileName)
  for p in Command.sources base t words do
    t ← seeAround t p
  let (seen, report) ← converse ⟨base, false⟩ t "" 0 words
  for (place, e) in Command.newEntries seen report.tree do
    writeEntry place e
  IO.eprint report.errors
  match report.unreported with
  | some f => IO.eprintln f.message
  | none => pure ()
  return report.status.toUInt32
