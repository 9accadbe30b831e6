import SpecForge.Model.Field

/-!
# Models in Kotlin

A model becomes a serializable data class, or an empty class if it has no properties. A field that
is renamed carries its key in an annotation.
-/

namespace SpecForge.Model.Kotlin

/-- The comment above a class. -/
def classComment (description : Option String) : Lines :=
  match description with
  | none => []
  | some d => if d.isEmpty then [] else ["/**", s!" * {d}", " */"]

/-- The type of a field with its default. -/
def fieldType (f : CodeField) : String :=
  if f.isOptional then f.type ++ "? = null"
  else match f.default with
    | some literal => s!"{f.type} = {literal}"
    | none => f.type

/-- The lines of a field up to its declaration. -/
def annotations (f : CodeField) : Lines :=
  Lines.docComment .block f.description ++
    (if f.isRenamed then [s!"@SerialName({quoted f.key})"] else [])

/-- The declaration of a field. -/
def declaration (f : CodeField) : String := s!"val {f.name}: {fieldType f}"

/-- The fields with commas between them. -/
def declarations : List CodeField → Lines
  | [] => []
  | [f] => annotations f ++ [declaration f]
  | f :: rest => annotations f ++ [declaration f ++ ","] ++ declarations rest

/-- The class of a model. -/
def dataClass (m : Model) : Lines :=
  let fields := m.fields .android
  classComment m.description ++ ["@Serializable"] ++
    (if fields.isEmpty then [s!"class {m.name}", ""]
     else [s!"data class {m.name}("] ++ Lines.indent (declarations fields) 1 ++ [")", ""])

/-- The imports that some models need. -/
def imports (models : List Model) : Lines :=
  (if models.any Model.isRenamed then ["import kotlinx.serialization.SerialName"] else []) ++
    ["import kotlinx.serialization.Serializable", ""]

/-- The file of a model. -/
def file (m : Model) (source : String) : Lines :=
  Lines.header source ++ imports [m] ++ dataClass m

end SpecForge.Model.Kotlin
