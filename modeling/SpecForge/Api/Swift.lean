import SpecForge.Api.Request
import SpecForge.Model.Swift

/-!
# Clients in Swift

A client over `URLSession` with one asynchronous method per endpoint, followed by the models. The
arguments of a method are the parameters of the path, the query and the headers, and then the body.
-/

namespace SpecForge.Api.Swift

/-- An argument of a method. -/
structure Argument where
  name : String
  type : String
  isOptional : Bool

/-- The declaration of an argument; an optional one is nothing by default. -/
def Argument.text (a : Argument) : String :=
  if a.isOptional then s!"{a.name}: {a.type}? = nil" else s!"{a.name}: {a.type}"

/-- The argument for a parameter; those of the path are never optional. -/
def argumentOf (e : Endpoint) (param : Parameter) : Argument :=
  ⟨param.identifier, param.spelling .ios, !(param.isRequired || e.pathParams.contains param)⟩

/-- The argument for a body. -/
def bodyArgument (body : RequestBody) : Argument :=
  ⟨"body", body.spelling .ios, !body.isRequired⟩

/-- The arguments of the method of an endpoint. -/
def arguments (e : Endpoint) : List Argument :=
  e.params.map (argumentOf e) ++ (e.body.map bodyArgument).toList

/-- A statement about a parameter, within a test whether it is there unless it is required. -/
def whenGiven (param : Parameter) (statement : String) : Lines :=
  if param.isRequired then [statement]
  else
    [s!"if let {param.identifier} = {param.identifier} \x7b", s!"    {statement}", "\x7d"]

/-- The statement that sends a parameter in the query. -/
def queryItem (param : Parameter) : String :=
  s!"queryItems.append(URLQueryItem(name: {quoted param.name}, " ++
    s!"value: String(describing: {param.identifier})))"

/-- The statement that sends a parameter in a header. -/
def headerField (param : Parameter) : String :=
  s!"request.setValue(String(describing: {param.identifier}), " ++
    s!"forHTTPHeaderField: {quoted param.name})"

/-- The statements that send the parameters of the query. -/
def queryLines (e : Endpoint) : Lines :=
  if e.queryParams.isEmpty then []
  else
    ["var queryItems: [URLQueryItem] = []"] ++
      e.queryParams.flatMap (fun param => whenGiven param (queryItem param)) ++
      ["components?.queryItems = queryItems.isEmpty ? nil : queryItems"]

/-- The statement that names the type of the content. -/
def contentTypeLine (body : RequestBody) : String :=
  s!"request.setValue({quoted body.contentType}, forHTTPHeaderField: \"Content-Type\")"

/-- The statements that send a body. -/
def bodyLines (body : RequestBody) : Lines :=
  if body.isRequired then
    ["request.httpBody = try encoder.encode(body)", contentTypeLine body]
  else
    ["if let body = body \x7b",
      "    request.httpBody = try encoder.encode(body)",
      s!"    {contentTypeLine body}",
      "\x7d"]

/-- The path with interpolated arguments. -/
def path (e : Endpoint) : String := fillPath "\\(" ")" e.path

/-- The statement that makes the request. -/
def sendLine (e : Endpoint) : String :=
  match e.answer? .ios with
  | some type => s!"return try await send(request, as: {type}.self)"
  | none => "try await perform(request)"

/-- The type of the answer after an arrow. -/
def returns (e : Endpoint) : String :=
  match e.answer? .ios with
  | some type => s!" -> {type}"
  | none => ""

/-- The statements of the method of an endpoint. -/
def statements (client : String) (e : Endpoint) : Lines :=
  ["var components = URLComponents(url: baseURL.appendingPathComponent(\"" ++ path e ++
    "\"), resolvingAgainstBaseURL: false)"] ++
  queryLines e ++
  ["guard let url = components?.url else \x7b",
    s!"    throw {client}Error.invalidURL",
    "\x7d",
    "var request = URLRequest(url: url)",
    s!"request.httpMethod = {quoted e.method}"] ++
  e.headerParams.flatMap (fun param => whenGiven param (headerField param)) ++
  (e.body.map bodyLines).getD [] ++
  [sendLine e]

/-- The declaration of the method of an endpoint. -/
def signature (e : Endpoint) : String :=
  let list := ", ".intercalate ((arguments e).map Argument.text)
  s!"public func {e.methodName}({list}) async throws{returns e} \x7b"

/-- The method of an endpoint. -/
def method (client : String) (e : Endpoint) : Lines :=
  [s!"/// {e.headline}", signature e] ++ Lines.indent (statements client e) 1 ++ ["\x7d"]

/-- The methods that all requests go through. -/
def transport (client : String) : Lines :=
  ["private func send<T: Decodable>(_ request: URLRequest, as type: T.Type) async throws -> T \x7b",
    "    let data = try await perform(request)",
    "    do \x7b",
    "        return try decoder.decode(T.self, from: data)",
    "    \x7d catch \x7b",
    s!"        throw {client}Error.decodingFailed(error)",
    "    \x7d",
    "\x7d",
    "",
    "@discardableResult",
    "private func perform(_ request: URLRequest) async throws -> Data \x7b",
    "    let (data, response) = try await session.data(for: request)",
    "    guard let httpResponse = response as? HTTPURLResponse else \x7b",
    s!"        throw {client}Error.invalidResponse",
    "    \x7d",
    "    guard (200..<300).contains(httpResponse.statusCode) else \x7b",
    s!"        throw {client}Error.httpError(statusCode: httpResponse.statusCode, data: data)",
    "    \x7d",
    "    return data",
    "\x7d"]

/-- The errors of a client. -/
def errors (client : String) : Lines :=
  [s!"public enum {client}Error: Error \x7b",
    "    case invalidURL",
    "    case invalidResponse",
    "    case httpError(statusCode: Int, data: Data)",
    "    case decodingFailed(Error)",
    "\x7d",
    ""]

/-- The beginning of the class of a client, up to its methods. -/
def opening (api : Api) : Lines :=
  Lines.docComment .slashes api.description ++
  [s!"/// {api.name} API client (version {api.version})",
    s!"public final class {api.clientName} \x7b",
    "    public let baseURL: URL",
    "    private let session: URLSession",
    "    private let decoder = JSONDecoder()",
    "    private let encoder = JSONEncoder()",
    "",
    s!"    public init(baseURL: URL = URL(string: {quoted api.url})!, " ++
      "session: URLSession = .shared) \x7b",
    "        self.baseURL = baseURL",
    "        self.session = session",
    "    \x7d",
    ""]

/-- The models after a client. -/
def models (api : Api) : Lines :=
  if api.models.isEmpty then []
  else ["// MARK: - Models", ""] ++ api.models.flatMap Model.Swift.struct

/-- The file of a client. -/
def file (api : Api) (source : String) : Lines :=
  let client := api.clientName
  Lines.header source ++ ["import Foundation", ""] ++ errors client ++ opening api ++
    api.endpoints.flatMap (fun e => Lines.indent (method client e) 1 ++ [""]) ++
    Lines.indent (transport client) 1 ++ ["\x7d", ""] ++ models api

end SpecForge.Api.Swift
