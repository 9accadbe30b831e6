import SpecForge.Model.Kotlin
import SpecForge.Text.IdentifierChar

/-!
# Models in TypeScript

A model becomes an interface. Keys stay as they are, between quotes unless they are identifiers.
-/

namespace SpecForge.Model.TypeScript

/-- A key of an interface or of an object type. -/
def key (name : String) : String :=
  if Name.isIdentifier name || Text.isUnicodeIdentifier name then name else singleQuoted name

/-- The mark of an optional property. -/
def optionalMark (isOptional : Bool) : String := if isOptional then "?" else ""

/-- The lines of a property. -/
def member (prop : Property) : Lines :=
  (Lines.docComment .block prop.description).map (fun line => "  " ++ line) ++
    [s!"  {key prop.name}{optionalMark prop.isOptional}: {prop.spelling .web};"]

/-- The interface of a model. -/
def interface (m : Model) : Lines :=
  Kotlin.classComment m.description ++ [s!"export interface {m.name} \x7b"] ++
    m.properties.flatMap member ++ ["\x7d", ""]

/-- The file of a model. -/
def file (m : Model) (source : String) : Lines := Lines.header source ++ interface m

end SpecForge.Model.TypeScript
