import SpecForge.Document.Access
import SpecForge.Model.Basic

/-!
# Models from JSON Schema

An object schema becomes a model with one property per member of `properties`, in their order. A
property is optional unless its name is required, and also if it is nullable. The type of an array
property is that of its items.
-/

namespace SpecForge.Model

/-- The name of a model whose schema has no title. -/
def unnamed : Value := .str "UnnamedModel"

/-- The type where none is declared. -/
def anyType : Value := .str "any"

/-- The declared type: of several the first one that is not null. -/
def declaredType (declared : Value) : Value :=
  match declared.content with
  | .list ts => (ts.find? fun t => !t.isText "null").getD anyType
  | _ => declared.orElse anyType

/-- The type of a schema: the last step of a reference, or the declared type. A schema that is no
object says nothing. -/
def schemaType (schema : Value) : Outcome Value :=
  match schema.content with
  | .object ms => match Value.lookup "$ref" ms with
    | some target => do
      let path ← target.asText
      return .str (Text.lastPart '/' (Text.dropEndChar '/' path))
    | none => .ok (declaredType ((Value.lookup "type" ms).getD .null))
  | _ => .ok anyType

/-- The type of a schema, that of its items if it is an array, and whether it is one. -/
def elementType (schema : Value) : Outcome (Value × Bool) := do
  let type ← schemaType schema
  if type.isText "array" then
    let items := (schema.member? "items").getD .null
    if items.isGiven then return (← schemaType items, true) else return (anyType, true)
  else return (type, false)

/-- Is the member literally `true`? -/
def isTrue (v : Value) (key : String) : Bool :=
  match v.member? key with
  | some (.bool true) => true
  | _ => false

/-- The property for one member of `properties`. -/
def schemaProperty (required : Value) (name schema : Value) : Outcome Property := do
  let schema := if schema.isObject then schema else .object []
  let isRequired ← required.holds name
  let (type, isArray) ← elementType schema
  Property.check name type ((schema.member? "description").getD .null)
    (!isRequired || isTrue schema "nullable") isArray
    ((schema.member? "format").getD .null) ((schema.member? "default").getD .null)

/-- The model of an object schema. -/
def ofSchema (schema : Value) : Outcome Model := do
  if !(schema.member? "type").any (·.isText "object") then throw (.spec .schemaKind)
  let required := ((schema.member? "required").getD .null).orElse (.list [])
  let members ← (((schema.member? "properties").getD .null).orElse (.object [])).allMembers
  let properties ← members.mapM fun m => schemaProperty required m.1 m.2
  Model.check (((schema.member? "title").getD .null).orElse unnamed)
    ((schema.member? "description").getD .null) properties

end SpecForge.Model
