import SpecForge.Api.Kotlin
import SpecForge.Model.TypeScript

/-!
# Clients in TypeScript

A client class over `fetch` with one asynchronous method per endpoint, after the interfaces of the
models. The parameters of the query and those of the headers are each one argument; arguments that a
caller may leave out come last.
-/

namespace SpecForge.Api.TypeScript

/-- How a caller may leave an argument out. -/
inductive Omission where
  | never
  | marked
  | default
deriving DecidableEq

/-- An argument of a method. -/
structure Argument where
  name : String
  type : String
  omission : Omission

/-- The declaration of an argument. -/
def Argument.text (a : Argument) : String :=
  match a.omission with
  | .never => s!"{a.name}: {a.type}"
  | .marked => s!"{a.name}?: {a.type}"
  | .default => s!"{a.name}: {a.type} = \x7b\x7d"

/-- The argument for a parameter of the path. -/
def pathArgument (param : Parameter) : Argument := ⟨param.identifier, param.spelling .web, .never⟩

/-- One parameter as a field of an object type. -/
def fieldText (param : Parameter) : String :=
  Model.TypeScript.key param.name ++ Model.TypeScript.optionalMark (!param.isRequired) ++ ": " ++
    param.spelling .web

/-- The argument that holds some parameters; it may be left out if none of them is required. -/
def objectArgument (label : String) (params : List Parameter) : List Argument :=
  if params.isEmpty then []
  else
    let fields := "; ".intercalate (params.map fieldText)
    [⟨label, s!"\x7b {fields} \x7d", if params.any (·.isRequired) then .never else .default⟩]

/-- The argument for a body that is, or is not, required. -/
def bodyArgument (isRequired : Bool) (e : Endpoint) : List Argument :=
  match e.body with
  | some body =>
    if body.isRequired == isRequired then
      [⟨"body", body.spelling .web, if isRequired then .never else .marked⟩]
    else []
  | none => []

/-- The arguments of the method of an endpoint. -/
def arguments (e : Endpoint) : List Argument :=
  e.pathParams.map pathArgument ++ bodyArgument true e ++ objectArgument "query" e.queryParams ++
    objectArgument "headers" e.headerParams ++ bodyArgument false e

/-- The path with interpolated arguments. -/
def path (e : Endpoint) : String := fillPath "$\x7bencodeURIComponent(String(" "))\x7d" e.path

/-- The type of the answer. -/
def answer (e : Endpoint) : String := (e.answer? .web).getD "void"

/-- The method of an endpoint. -/
def method (e : Endpoint) : Lines :=
  let list := ", ".intercalate ((arguments e).map Argument.text)
  let query := if e.queryParams.isEmpty then "" else ", query"
  let headers := if e.headerParams.isEmpty then "\x7b\x7d" else "headers"
  let payload := if e.body.isSome then ", body" else ""
  [s!"/** {e.headline} */",
    s!"async {e.methodName}({list}): Promise<{answer e}> \x7b",
    s!"  const url = this.buildUrl(`{path e}`{query});",
    s!"  return this.request<{answer e}>('{e.method}', url, {headers}{payload});",
    "\x7d"]

/-- The methods that all requests go through. -/
def transport (client : String) : Lines :=
  ["private buildUrl(path: string, query: Record<string, unknown> = \x7b\x7d): string \x7b",
    "  const params = new URLSearchParams();",
    "  for (const [key, value] of Object.entries(query)) \x7b",
    "    if (value === undefined || value === null) continue;",
    "    if (Array.isArray(value)) \x7b",
    "      value.forEach((item) => params.append(key, String(item)));",
    "    \x7d else \x7b",
    "      params.append(key, String(value));",
    "    \x7d",
    "  \x7d",
    "  const search = params.toString();",
    "  return `$\x7bthis.baseUrl\x7d$\x7bpath\x7d$\x7bsearch ? `?$\x7bsearch\x7d` : ''\x7d`;",
    "\x7d",
    "",
    "private async request<T>(",
    "  method: string,",
    "  url: string,",
    "  headers: Record<string, unknown>,",
    "  body?: unknown,",
    "): Promise<T> \x7b",
    "  const requestHeaders: Record<string, string> = \x7b ...this.headers \x7d;",
    "  for (const [key, value] of Object.entries(headers)) \x7b",
    "    if (value !== undefined && value !== null) requestHeaders[key] = String(value);",
    "  \x7d",
    "  if (body !== undefined) requestHeaders['Content-Type'] = 'application/json';",
    "  const response = await this.fetchImpl(url, \x7b",
    "    method,",
    "    headers: requestHeaders,",
    "    body: body === undefined ? undefined : JSON.stringify(body),",
    "  \x7d);",
    "  if (!response.ok) \x7b",
    s!"    throw new {client}Error(response.status, await response.text());",
    "  \x7d",
    "  const text = await response.text();",
    "  return (text ? JSON.parse(text) : undefined) as T;",
    "\x7d"]

/-- The error class and the options of a client. -/
def support (client : String) : Lines :=
  [s!"export class {client}Error extends Error \x7b",
    "  constructor(public readonly status: number, public readonly body: string) \x7b",
    "    super(`Request failed with status $\x7bstatus\x7d`);",
    s!"    this.name = '{client}Error';",
    "  \x7d",
    "\x7d",
    "",
    s!"export interface {client}Options \x7b",
    "  baseUrl?: string;",
    "  headers?: Record<string, string>;",
    "  fetch?: typeof fetch;",
    "\x7d",
    ""]

/-- The address without the slashes at its end. -/
def bareUrl (api : Api) : String := Text.dropEndChar '/' api.url

/-- The beginning of the class of a client, up to its methods. -/
def opening (api : Api) : Lines :=
  let client := api.clientName
  Kotlin.title api ++
  [s!"export class {client} \x7b",
    "  private readonly baseUrl: string;",
    "  private readonly headers: Record<string, string>;",
    "  private readonly fetchImpl: typeof fetch;",
    "",
    s!"  constructor(options: {client}Options = \x7b\x7d) \x7b",
    s!"    this.baseUrl = options.baseUrl ?? '{bareUrl api}';",
    "    this.headers = options.headers ?? \x7b\x7d;",
    "    this.fetchImpl = options.fetch ?? globalThis.fetch.bind(globalThis);",
    "  \x7d",
    ""]

/-- The file of a client. -/
def file (api : Api) (source : String) : Lines :=
  let client := api.clientName
  Lines.header source ++ api.models.flatMap Model.TypeScript.interface ++ support client ++
    opening api ++
    api.endpoints.flatMap (fun e => Lines.shifted "  " (method e) ++ [""]) ++
    Lines.shifted "  " (transport client) ++ ["\x7d", ""]

end SpecForge.Api.TypeScript
