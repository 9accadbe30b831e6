import SpecForge.Api.Request
import SpecForge.Model.Kotlin

/-!
# Clients in Kotlin

A service interface with one suspending function per endpoint, annotated with the route and with the
place of every argument, and the models. The annotations that are used are imported in ascending
order.
-/

namespace SpecForge

/-- Puts a text at its place in an ascending list, unless it is there already. -/
def insertDistinct (s : String) : List String → List String
  | [] => [s]
  | t :: rest =>
    if s = t then t :: rest
    else if s < t then s :: t :: rest
    else t :: insertDistinct s rest

/-- The texts in ascending order, each once. -/
def ascending (xs : List String) : List String := xs.foldr insertDistinct []

namespace Api.Kotlin

/-- An argument of a function: its place in the request, its type and whether it may be missing. -/
structure Argument where
  marker : String
  key : Option String
  name : String
  type : String
  isOptional : Bool

/-- The declaration of an argument. -/
def Argument.text (a : Argument) : String :=
  let place := match a.key with
    | some key => s!"@{a.marker}({quoted key})"
    | none => s!"@{a.marker}"
  let type := if a.isOptional then s!"{a.type}? = null" else a.type
  s!"{place} {a.name}: {type}"

/-- The argument for a parameter at a place. -/
def argumentOf (marker : String) (mayMiss : Bool) (param : Parameter) : Argument :=
  ⟨marker, some param.name, param.identifier, param.spelling .android,
    !param.isRequired && mayMiss⟩

/-- The argument for a body. -/
def bodyArgument (body : RequestBody) : Argument :=
  ⟨"Body", none, "body", body.spelling .android, !body.isRequired⟩

/-- The arguments of the function of an endpoint. -/
def arguments (e : Endpoint) : List Argument :=
  e.pathParams.map (argumentOf "Path" false) ++ e.queryParams.map (argumentOf "Query" true) ++
    e.headerParams.map (argumentOf "Header" true) ++ (e.body.map bodyArgument).toList

/-- The path without the slashes at its beginning. -/
def path (e : Endpoint) : String := Text.dropStartChar '/' e.path

/-- A deletion with a body needs the general annotation. -/
def deletesWithBody (e : Endpoint) : Bool := e.method == "DELETE" && e.body.isSome

/-- The annotation of the route. -/
def routeMarker (e : Endpoint) : String := if deletesWithBody e then "HTTP" else e.method

/-- The line with the route. -/
def route (e : Endpoint) : String :=
  if deletesWithBody e then
    s!"@HTTP(method = \"DELETE\", path = {quoted (path e)}, hasBody = true)"
  else s!"@{e.method}({quoted (path e)})"

/-- The annotations that the function of an endpoint uses. -/
def annotations (e : Endpoint) : List String :=
  (arguments e).map (·.marker) ++ [routeMarker e]

/-- The type of the answer after a colon. -/
def returns (e : Endpoint) : String :=
  match e.answer? .android with
  | some type => s!": {type}"
  | none => ""

/-- The function of an endpoint. -/
def function (e : Endpoint) : Lines :=
  let list := (arguments e).map Argument.text
  [s!"/** {e.headline} */", route e] ++
    (if list.isEmpty then [s!"suspend fun {e.methodName}(){returns e}"]
     else
      [s!"suspend fun {e.methodName}("] ++
        (Lines.commaSeparated list).map (fun line => "    " ++ line) ++ [s!"){returns e}"])

/-- The annotations to import. -/
def imported (api : Api) : List String := ascending (api.endpoints.flatMap annotations)

/-- The address with a slash at its end. -/
def slashedUrl (api : Api) : String :=
  let u := api.url
  if Text.endsWith u "/" then u else u ++ "/"

/-- The lines of a comment that tell the name, the version and the description. -/
def title (api : Api) : Lines :=
  ["/**", s!" * {api.name} API client (version {api.version})"] ++
    (match nonEmpty? api.description with
      | some d => [" *", s!" * {Text.oneSpaced d}"]
      | none => []) ++
    [" */"]

/-- The factory of a client. -/
def companion (api : Api) : Lines :=
  let client := api.clientName
  ["    companion object \x7b",
    s!"        const val BASE_URL = {quoted (slashedUrl api)}",
    "",
    s!"        fun create(baseUrl: String = BASE_URL): {client} \x7b",
    "            val json = Json \x7b ignoreUnknownKeys = true \x7d",
    "            return Retrofit.Builder()",
    "                .baseUrl(baseUrl)",
    "                .addConverterFactory(json.asConverterFactory(\"application/json\".toMediaType()))",
    "                .build()",
    s!"                .create({client}::class.java)",
    "        \x7d",
    "    \x7d",
    "\x7d",
    ""]

/-- The imports of a file. -/
def imports (api : Api) : Lines :=
  ["import kotlinx.serialization.json.Json",
    "import okhttp3.MediaType.Companion.toMediaType",
    "import retrofit2.Retrofit",
    "import retrofit2.converter.kotlinx.serialization.asConverterFactory"] ++
  (imported api).map (fun name => s!"import retrofit2.http.{name}") ++
  (if api.models.isEmpty then [""] else Model.Kotlin.imports api.models)

/-- The file of a client. -/
def file (api : Api) (source : String) : Lines :=
  Lines.header source ++ imports api ++ title api ++ [s!"interface {api.clientName} \x7b", ""] ++
    api.endpoints.flatMap (fun e => Lines.indent (function e) 1 ++ [""]) ++ companion api ++
    api.models.flatMap Model.Kotlin.dataClass

end Api.Kotlin

end SpecForge
