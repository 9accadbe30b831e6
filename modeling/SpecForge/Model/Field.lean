import SpecForge.Lines
import SpecForge.Model.Basic
import SpecForge.Name
import SpecForge.TypeName.Schema

/-!
# Fields of generated models

Between a model and its code stand the fields: for each property the name it has in the code, the
key it has in JSON, its type on a platform and its default. Names are made from keys and kept apart
by numbers.
-/

namespace SpecForge

/-- A default as a literal of the code; composite values have none. -/
def defaultLiteral (value : Value) (type : String) : Option String :=
  match value with
  | .null => none
  | .list _ => none
  | .object _ => none
  | .loop _ _ => none
  | .bool b => some (if b then "true" else "false")
  | .str s => some (quoted s)
  | .int n => some (if type == "number" then toString n ++ ".0" else toString n)
  | v => some v.text

/-- Can the literal of a default be spelled, if it has one? -/
def hasSpellableLiteral (value : Value) : Bool :=
  match value with
  | .list _ => true
  | .object _ => true
  | .loop _ _ => true
  | v => v.isSpellable

/-- The first of `base`, `base2`, `base3` and so on that is not taken yet. -/
def freshName (taken : List String) (base : String) : String :=
  let numbered := (List.range taken.length).map fun i => base ++ toString (i + 2)
  ((base :: numbered).find? fun name => !taken.contains name).getD base

/-- Different names for texts, each made from the text and from the names before it. -/
def freshNames (taken : List String) : List String → List String
  | [] => []
  | s :: rest =>
    let name := freshName taken (Name.toIdentifier s)
    name :: freshNames (name :: taken) rest

/-- A field of the code of a model. -/
structure CodeField where
  key : String
  name : String
  type : String
  isOptional : Bool
  default : Option String
  description : Option String

namespace Model

/-- The names of the properties in code. -/
def identifiers (m : Model) : List String := freshNames [] (m.properties.map (·.name))

end Model

/-- The spelling of the type of a property, without the mark of optionality. -/
def Property.spelling (p : Platform) (prop : Property) : String :=
  TypeName.field p prop.type prop.isArray prop.format

/-- The field of a property under a name. Optional properties and arrays have no default literal. -/
def CodeField.ofProperty (p : Platform) (prop : Property) (name : String) : CodeField :=
  { key := prop.name
    name := name
    type := prop.spelling p
    isOptional := prop.isOptional
    default :=
      if prop.isOptional || prop.isArray then none else defaultLiteral prop.default prop.type
    description := prop.description }

/-- Can all default literals in the code of a model be spelled? -/
def Model.isSpellable (m : Model) : Bool :=
  m.properties.all fun prop => prop.isOptional || prop.isArray || hasSpellableLiteral prop.default

/-- The fields of a model on a platform. -/
def Model.fields (p : Platform) (m : Model) : List CodeField :=
  List.zipWith (CodeField.ofProperty p) m.properties m.identifiers

/-- Does a field have a name other than its key? -/
def CodeField.isRenamed (f : CodeField) : Bool := f.key != f.name

/-- Does any field of the model have a name other than its key? -/
def Model.isRenamed (m : Model) : Bool :=
  (List.zipWith (fun prop name => prop.name != name) m.properties m.identifiers).any id

end SpecForge
