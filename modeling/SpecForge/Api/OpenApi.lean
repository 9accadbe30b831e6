import SpecForge.Api.Basic
import SpecForge.Document.Access
import SpecForge.Name

/-!
# Interfaces from OpenAPI

There is one endpoint for each path and each of five methods that the path declares, in the order of
the paths and, on one path, in the fixed order of the methods. The parameters of a path come before
those of the operation; what is neither in the path nor in the query nor in a header is left out.
-/

namespace SpecForge.Api

/-- The value if it is an object, and otherwise the object without members. -/
def objectOrEmpty (v : Value) : Value := if v.isObject then v else .object []

/-- The member of a value, `null` if there is none. -/
def memberOrNull (v : Value) (key : String) : Value := (v.member? key).getD .null

/-- The declared type of a schema: of several the first one that is not null. -/
def baseType (schema : Value) : Value :=
  let declared := memberOrNull schema "type"
  match declared.content with
  | .list ts => (ts.find? fun t => !t.isText "null").getD .null
  | _ => declared

/-- Is the schema that of an array? -/
def isArraySchema (schema : Value) : Bool := (baseType schema).isText "array"

/-- Is the schema that of an array? A value that is given must have parts. -/
def isArray (schema : Value) : Outcome Bool :=
  if schema.isGiven then
    if schema.isObject then .ok (isArraySchema schema) else .error .noParts
  else .ok false

/-- The type of a schema: the last step of a reference, the type of the items of an array, or the
declared type. An array whose items are arrays of the same kind without end has none. -/
def schemaType (schema : Value) : Outcome Value :=
  let target := memberOrNull schema "$ref"
  if target.isGiven then do
    let path ← target.asText
    return .str (Text.lastPart '/' path)
  else
    let base := baseType schema
    if base.isText "array" then
      match _h : schema.member? "items" with
      | some items =>
        if items.isCut then .error .depth
        else if items.isGiven then schemaType items
        else .ok (.str "any")
      | none => .ok (.str "any")
    else .ok (base.orElse (.str "any"))
termination_by sizeOf schema
decreasing_by exact Value.sizeOf_member?_lt _h

/-- The methods of a path that make endpoints. -/
def methods : List String := ["get", "post", "put", "patch", "delete"]

/-- One step of a path in an operation id: a parameter after `By`, with a capital. -/
def idPart (segment : String) : String :=
  match Text.between? "\x7b" "\x7d" segment with
  | some name => "By" ++ Name.capitalize name
  | none => Name.capitalize segment

/-- The operation id of an operation that declares none. -/
def operationId (method path : String) : String :=
  Text.lower method ++
    String.join (((Text.split '/' path).filter fun s => !s.isEmpty).map idPart)

/-- Where a parameter stands in a request. -/
inductive Location where
  | path
  | query
  | header
deriving DecidableEq

/-- The location that a value names; a composite value cannot be looked up. -/
def Location.ofValue : Value → Outcome (Option Location)
  | .str "path" => .ok (some .path)
  | .str "query" => .ok (some .query)
  | .str "header" => .ok (some .header)
  | .list _ => .error .unfit
  | .object _ => .error .unfit
  | .set _ => .error .unfit
  | .loop _ _ => .error .unfit
  | _ => .ok none

/-- A parameter. -/
def parameter (v : Value) : Outcome Parameter := do
  let some name := v.member? "name" | throw (.spec .parameterName)
  let schema := objectOrEmpty (memberOrNull v "schema")
  let type ← schemaType schema
  checked do
    let name ← Shape.under "name" (Shape.text name)
    let type ← Shape.under "type" (Shape.text type)
    let description ←
      Shape.under "description" (Shape.optional Shape.text (memberOrNull v "description"))
    let format ← Shape.under "format" (Shape.optional Shape.text (memberOrNull schema "format"))
    return ⟨name, type, description, (memberOrNull v "required").isGiven, isArraySchema schema,
      format⟩

/-- A parameter with its location, if it stands at one of the three. -/
def located (v : Value) : Outcome (Option (Location × Parameter)) := do
  match ← Location.ofValue (← v.part "in") with
  | some place => return some (place, ← parameter v)
  | none => return none

/-- The first content type of a table of contents, and its schema. -/
def firstContent (content : Value) : Outcome (Value × Option Value) := do
  match ← (content.orElse (.object [])).allMembers with
  | [] => return (.null, none)
  | (contentType, media) :: _ =>
    match media.member? "schema" with
    | none => return (contentType, none)
    | some .null => return (contentType, none)
    | some schema => return (contentType, some (objectOrEmpty schema))

/-- The type of a schema that may be missing or empty. -/
def contentSchemaType (schema : Option Value) : Outcome (Option Value) :=
  match schema with
  | some s => if s.isGiven then (schemaType s).map some else .ok none
  | none => .ok none

/-- The body of a request. -/
def requestBody (v : Value) : Outcome RequestBody := do
  let (contentType, schema) ← firstContent (← v.part "content")
  let type := (← contentSchemaType schema).getD (.str "any")
  checked do
    let type ← Shape.under "type" (Shape.text type)
    let description ←
      Shape.under "description" (Shape.optional Shape.text (memberOrNull v "description"))
    let contentType ←
      Shape.under "content_type" (Shape.text (contentType.orElse (.str "application/json")))
    return ⟨type, description, (memberOrNull v "required").isGiven, contentType,
      (schema.map isArraySchema).getD false⟩

/-- The response for a status. -/
def response (status v : Value) : Outcome Response := do
  let v := v.orElse (.object [])
  let (contentType, schema) ← firstContent (← v.part "content")
  let status ← status.spelled
  let type := (← contentSchemaType schema).getD .null
  checked do
    let type ← Shape.under "type" (Shape.optional Shape.text type)
    let description ←
      Shape.under "description" (Shape.text ((v.member? "description").getD (.str "")))
    let contentType ← Shape.under "content_type" (Shape.optional Shape.text contentType)
    return ⟨status, type, description, contentType, (schema.map isArraySchema).getD false⟩

/-- The parameters that stand at a place, in order. -/
def atPlace (place : Location) (params : List (Location × Parameter)) : List Parameter :=
  (params.filter fun p => p.1 == place).map (·.2)

/-- The operation id that is declared, or the one made from method and path. -/
def declaredId (operation : Value) (method : String) (path : Value) : Outcome Value := do
  let declared := memberOrNull operation "operationId"
  if declared.isGiven then return declared else return .str (operationId method (← path.asText))

/-- The endpoint of an operation. -/
def endpoint (method : String) (path operation shared : Value) : Outcome Endpoint := do
  let inherited ← shared.each
  let own ← ((← operation.part "parameters").orElse (.list [])).each
  let params := (← (inherited ++ own).mapM located).filterMap id
  let id ← declaredId operation method path
  let bodyValue := memberOrNull operation "requestBody"
  let body ← if bodyValue.isGiven then (requestBody bodyValue).map some else pure none
  let table ← ((memberOrNull operation "responses").orElse (.object [])).allMembers
  let responses ← table.mapM fun r => response r.1 r.2
  checked do
    let id ← Shape.under "operation_id" (Shape.text id)
    let path ← Shape.under "path" (Shape.text path)
    let summary ←
      Shape.under "summary" (Shape.optional Shape.text (memberOrNull operation "summary"))
    let description ←
      Shape.under "description" (Shape.optional Shape.text (memberOrNull operation "description"))
    let tags ← Shape.under "tags"
      (Shape.sequence Shape.text ((memberOrNull operation "tags").orElse (.list [])))
    return {
      operationId := id
      method := Text.upper method
      path := path
      summary := summary
      description := description
      pathParams := atPlace .path params
      queryParams := atPlace .query params
      headerParams := atPlace .header params
      body := body
      responses := responses
      tags := tags }

/-- The endpoints of one path. -/
def pathEndpoints (path item : Value) : Outcome (List Endpoint) := do
  let item := item.orElse (.object [])
  let shared := (← item.part "parameters").orElse (.list [])
  let declared := methods.filterMap fun m => match memberOrNull item m with
    | .null => none
    | operation => some (m, operation)
  declared.mapM fun (method, operation) => endpoint method path operation shared

/-- The property for one member of `properties`. -/
def property (required : Value) (name schema : Value) : Outcome Property := do
  let schema := objectOrEmpty schema
  let type ← schemaType schema
  let isRequired ← required.holds name
  let nullable := match schema.member? "nullable" with
    | some (.bool true) => true
    | _ => false
  Property.check name type (memberOrNull schema "description") (!isRequired || nullable)
    (isArraySchema schema) (memberOrNull schema "format") (memberOrNull schema "default")

/-- The model of a component schema. -/
def model (name schema : Value) : Outcome Model := do
  let schema := objectOrEmpty schema
  let required := (memberOrNull schema "required").orElse (.list [])
  let members ← ((memberOrNull schema "properties").orElse (.object [])).allMembers
  let properties ← members.mapM fun m => property required m.1 m.2
  Model.check name (memberOrNull schema "description") properties

/-- The first item of a list, which must have parts. -/
def firstServer (servers : Value) : Outcome Value :=
  match servers.content with
  | .list (s :: _) => .ok s
  | .object ms => match ms.find? fun m => (Value.int 0).same m.1 with
    | some m => .ok m.2
    | none => .error .absent
  | .str _ => .error .noParts
  | .bytes _ => .error .noParts
  | _ => .error .unfit

/-- The address of the first server, if any is declared. -/
def serverUrl (servers : Value) : Outcome Value := do
  if servers.isGiven then (← firstServer servers).part "url" else return .null

/-- The interface that an OpenAPI document describes. -/
def ofDocument (doc : Value) : Outcome Api := do
  if !doc.isObject then throw (.spec .apiShape)
  let info := (memberOrNull doc "info").orElse (.object [])
  let title ← info.part "title"
  if !title.isGiven then throw (.spec .apiTitle)
  let version ← match ← info.part "version" with
    | .null => throw (.spec .apiVersion)
    | v => pure v
  let url ← serverUrl (memberOrNull doc "servers")
  let components := (memberOrNull doc "components").orElse (.object [])
  let schemas := (← components.part "schemas").orElse (.object [])
  let name ← match title with
    | .str s => pure (Name.sanitize s)
    | _ => throw .unfit
  let version ← version.spelled
  let paths ← ((memberOrNull doc "paths").orElse (.object [])).allMembers
  let endpoints ← paths.mapM fun p => pathEndpoints p.1 p.2
  let table ← schemas.allMembers
  let models ← table.mapM fun m => model m.1 m.2
  let api : Api ← checked do
    let description ←
      Shape.under "description" (Shape.optional Shape.text (memberOrNull info "description"))
    let url ← Shape.under "base_url" (Shape.optional Shape.text url)
    return ⟨name, version, description, url, endpoints.flatten, models⟩
  api.distinct

end SpecForge.Api
