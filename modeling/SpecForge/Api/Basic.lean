import SpecForge.Model.Basic
import SpecForge.Text.Split

/-!
# Interfaces of services

The normalized form of an OpenAPI document: endpoints with their parameters, bodies and responses,
and the models they speak of. No two endpoints have the same operation id.
-/

namespace SpecForge

/-- A parameter of an endpoint. -/
structure Parameter where
  name : String
  type : String
  description : Option String
  isRequired : Bool
  isArray : Bool
  format : Option String
deriving DecidableEq

/-- The body of a request. -/
structure RequestBody where
  type : String
  description : Option String
  isRequired : Bool
  contentType : String
  isArray : Bool

/-- A response; without a schema it has no type. -/
structure Response where
  status : String
  type : Option String
  description : String
  contentType : Option String
  isArray : Bool

/-- A method on a path. -/
structure Endpoint where
  operationId : String
  method : String
  path : String
  summary : Option String
  description : Option String
  pathParams : List Parameter
  queryParams : List Parameter
  headerParams : List Parameter
  body : Option RequestBody
  responses : List Response
  tags : List String

/-- An interface of a service. -/
structure Api where
  name : String
  version : String
  description : Option String
  baseUrl : Option String
  endpoints : List Endpoint
  models : List Model

/-- Does the status say that the request succeeded? -/
def Response.isSuccess (r : Response) : Bool := Text.startsWith r.status "2"

/-- The first response of success that has a type. -/
def Endpoint.successResponse? (e : Endpoint) : Option Response :=
  e.responses.find? fun r => r.isSuccess && (r.type.map fun t => !t.isEmpty).getD false

/-- All parameters: those of the path, of the query and of the headers. -/
def Endpoint.params (e : Endpoint) : List Parameter :=
  e.pathParams ++ e.queryParams ++ e.headerParams

/-- An interface whose endpoints have different operation ids. -/
def Api.distinct (api : Api) : Outcome Api :=
  match firstRepeated [] (api.endpoints.map (·.operationId)) with
  | some id => .error (.spec (.repeatedOperation id))
  | none => .ok api

/-- The name of the client type. -/
def Api.clientName (api : Api) : String := api.name ++ "APIClient"

end SpecForge
