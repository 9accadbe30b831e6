import SpecForge.Model.Field

/-!
# Models in Swift

A model becomes a `Codable` structure: its fields, the coding keys if a field is renamed, and an
initializer.
-/

namespace SpecForge.Model.Swift

/-- The type of a field with the mark of optionality. -/
def fieldType (f : CodeField) : String := if f.isOptional then f.type ++ "?" else f.type

/-- The declaration of a field. -/
def declaration (f : CodeField) : Lines :=
  Lines.indent (Lines.docComment .slashes f.description) 1 ++
    [s!"    public let {f.name}: {fieldType f}"]

/-- The case of a field among the coding keys. -/
def codingKey (f : CodeField) : String :=
  if f.isRenamed then s!"        case {f.name} = {quoted f.key}" else s!"        case {f.name}"

/-- The coding keys, if any field is renamed. -/
def codingKeys (fields : List CodeField) : Lines :=
  if fields.any CodeField.isRenamed then
    ["", "    enum CodingKeys: String, CodingKey \x7b"] ++ fields.map codingKey ++ ["    \x7d"]
  else []

/-- The default of a parameter: nothing for an optional one, or the default literal. -/
def parameterDefault (f : CodeField) : String :=
  if f.isOptional then " = nil"
  else match f.default with
    | some literal => s!" = {literal}"
    | none => ""

/-- A parameter of the initializer. -/
def parameter (f : CodeField) : String :=
  s!"    {f.name}: {fieldType f}{parameterDefault f}"

/-- The initializer. -/
def initializer (fields : List CodeField) : Lines :=
  if fields.isEmpty then ["public init() \x7b\x7d"]
  else
    ["public init("] ++ Lines.commaSeparated (fields.map parameter) ++ [") \x7b"] ++
      fields.map (fun f => s!"    self.{f.name} = {f.name}") ++ ["\x7d"]

/-- The structure of a model. -/
def struct (m : Model) : Lines :=
  let fields := m.fields .ios
  Lines.docComment .slashes m.description ++
    [s!"public struct {m.name}: Codable \x7b"] ++ fields.flatMap declaration ++
    codingKeys fields ++ [""] ++ Lines.indent (initializer fields) 1 ++ ["\x7d", ""]

/-- The file of a model. -/
def file (m : Model) (source : String) : Lines :=
  Lines.header source ++ ["import Foundation", ""] ++ struct m

end SpecForge.Model.Swift
