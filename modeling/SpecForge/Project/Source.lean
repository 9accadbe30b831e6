import SpecForge.Document.File
import SpecForge.Project.Tree

/-!
# Specifications in a project

Specifications are read from the files of a tree, and the schemas of models may stand together in
one directory.
-/

namespace SpecForge.Project

/-- The object that the file at a path holds. -/
def Tree.document (t : Tree) (p : Path) : Outcome Value := do
  match ← t.read p with
  | some text => Document.ofFile p.name text
  | none => throw (.spec (.noFile "Specification" p.text))

/-- The part of a file's name before its first dot. -/
def baseName (name : String) : String := String.ofList (name.toList.takeWhile (· != '.'))

/-- Does a file's name stand for the model of that name, letter case aside? -/
def isNamed (model fileName : String) : Bool :=
  [Document.stem fileName, baseName fileName].any fun s => Text.lower s == Text.lower model

/-- The schema files at a path: the path itself, or the JSON files of a directory in the order of
their names. A model name that is not empty selects among them. -/
def Tree.schemaFiles (t : Tree) (p : Path) (model : Option String) : Outcome (List Path) := do
  match ← t.look p with
  | some (place, .directory) =>
    let all := ((t.names place).filter fun n => Text.endsWith n ".json").mergeSort (· ≤ ·)
    let chosen := match model with
      | none => all
      | some m => if m.isEmpty then all else all.filter (isNamed m)
    return chosen.map fun name => { p with steps := p.steps ++ [name] }
  | _ => return [p]

end SpecForge.Project
