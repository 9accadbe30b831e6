import SpecForge.Lines
import SpecForge.Model.Field
import SpecForge.Plugin.Basic

/-!
# Plugins in Swift

A plugin is a package of files: the plugin itself, its configuration, its manager, the protocol of
its providers if it has any, one file for each model and each provider, and a readme. Without
providers the methods of the manager are stubs; with providers they call the one that is registered.
-/

namespace SpecForge.Plugin.Swift

/-- The comment at the top of a file. -/
def header (name : String) : Lines :=
  ["//", s!"//  {name}.swift", "//", s!"//  Generated by cuppa-cli on {Lines.generationDate}", "//",
    ""]

/-- What a method has to be called with. -/
def effects (m : PluginMethod) : String :=
  (if m.isAsync then " async" else "") ++ (if m.throws then " throws" else "")

/-- The answer of a method. -/
def returns (m : PluginMethod) : String :=
  if m.returnsValue then " -> " ++ pluginType m.returnType else ""

/-- The declaration of a method. -/
def signature (m : PluginMethod) : String :=
  let params := ", ".intercalate (m.parameters.map fun p => s!"{p.name}: {pluginType p.type}")
  s!"func {m.name}({params}){effects m}{returns m}"

/-- Lines that are there only if the plugin has providers. -/
def withProtocol (p : Plugin) (lines : String → Lines) : Lines :=
  match p.protocolName with
  | some name => lines name
  | none => []

/-- The registration of the provider when the plugin is started. -/
def registration (p : Plugin) : Lines :=
  withProtocol p fun _ =>
    [s!"        // Register provider with {p.managerName}",
      s!"        {p.managerName}.shared.register("] ++
      (if p.hasDebugFlag then
        ["            pluginConfig.provider,",
          s!"            {debugFlag}: pluginConfig.{debugFlag}"]
       else ["            pluginConfig.provider"]) ++ ["        )", ""]

/-- The messages about the settings. -/
def debugMessages (p : Plugin) : Lines :=
  if p.hasDebugFlag then
    [s!"        if pluginConfig.{debugFlag} \x7b",
      s!"            print(\"🔌 {p.name} initialized\")"] ++
      ((p.configuration.filter fun prop => prop.name != debugFlag).map fun prop =>
        s!"            print(\"   - {prop.name}: \\(pluginConfig.{prop.name})\")") ++
      ["        \x7d", ""]
  else []

/-- The file of the plugin itself. -/
def pluginFile (p : Plugin) : Lines :=
  let configType := p.name ++ "Configuration"
  let dependencies := ", ".intercalate (p.dependencies.map quoted)
  header p.name ++
    ["import Foundation",
      "import CuppaCore",
      "",
      s!"/// Plugin for integrating {p.description}",
      "@MainActor",
      s!"public final class {p.name}: CuppaPlugin \x7b",
      s!"    public let identifier = {quoted p.identifier}",
      s!"    public let version = {quoted p.version}",
      s!"    public let dependencies: [String] = [{dependencies}]",
      "",
      s!"    private var config: {configType}?",
      "",
      "    public init() \x7b\x7d",
      "",
      "    public func initialize(with config: PluginConfiguration) async throws \x7b",
      s!"        guard let pluginConfig = config as? {configType} else \x7b",
      "            throw PluginError.invalidConfiguration(",
      s!"                reason: \"Expected {configType}, got \\(type(of: config))\"",
      "            )",
      "        \x7d",
      "",
      "        self.config = pluginConfig",
      ""] ++
    registration p ++ debugMessages p ++
    [s!"        print(\"✅ {p.name} initialized\")",
      "    \x7d",
      "",
      "    nonisolated public func register(with container: ServiceContainer) \x7b",
      s!"        container.register({p.managerName}.self) \x7b _ in",
      s!"            {p.managerName}.shared",
      "        \x7d",
      "    \x7d",
      "",
      "    public func teardown() async \x7b",
      "        config = nil",
      s!"        print(\"🗑️ {p.name} torn down\")",
      "    \x7d",
      "\x7d",
      ""]

/-- A public initializer that assigns its parameters. -/
def initializer (params assignments : Lines) : Lines :=
  Lines.indent
    (["public init("] ++ (Lines.commaSeparated params).map (fun line => "    " ++ line) ++
      [") \x7b"] ++ assignments ++ ["\x7d"]) 1

/-- The assignment of a parameter to the property of the same name. -/
def assignment (name : String) : String := s!"    self.{name} = {name}"

/-- The declaration of a stored property with its documentation. -/
def storedProperty (name type description : String) : Lines :=
  Lines.indent (Lines.docComment .slashes (some description)) 1 ++
    [s!"    public let {name}: {type}", ""]

/-- The parameter of a setting, with its default if that is a literal. -/
def configParameter (prop : ConfigProperty) : String :=
  match defaultLiteral prop.default prop.type with
  | some literal => s!"{prop.name}: {pluginType prop.type} = {literal}"
  | none => s!"{prop.name}: {pluginType prop.type}"

/-- The file of the configuration. -/
def configurationFile (p : Plugin) : Lines :=
  header (p.name ++ "Configuration") ++
    ["import Foundation",
      "import CuppaCore",
      "",
      s!"/// Configuration for {p.name}.",
      s!"public struct {p.name}Configuration: PluginConfiguration \x7b"] ++
    (p.configuration.flatMap fun prop =>
      storedProperty prop.name (pluginType prop.type) prop.description) ++
    withProtocol p (fun name =>
      [s!"    /// {name} implementation", s!"    public let provider: {name}", ""]) ++
    ["    /// Required settings dictionary for PluginConfiguration conformance",
      "    public var settings: [String: Any] \x7b"] ++
    (if p.configuration.isEmpty then ["        [:]"]
     else
      ["        ["] ++
        p.configuration.map (fun prop => s!"            {quoted prop.name}: {prop.name},") ++
        ["        ]"]) ++
    ["    \x7d", ""] ++
    initializer
      (withProtocol p (fun name => ["provider: " ++ name]) ++ p.configuration.map configParameter)
      (withProtocol p (fun _ => [assignment "provider"]) ++
        p.configuration.map fun prop => assignment prop.name) ++
    ["\x7d", ""]

/-- The call of the registered provider. -/
def forwardingCall (m : PluginMethod) : String :=
  let arguments := ", ".intercalate (m.parameters.map fun p => s!"{p.name}: {p.name}")
  (if m.returnsValue then "return " else "") ++ (if m.throws then "try " else "") ++
    (if m.isAsync then "await " else "") ++ s!"provider.{m.name}({arguments})"

/-- The body of a method that is still to be written. -/
def stub (m : PluginMethod) : Lines :=
  ["    // TODO: Implement this method"] ++
    (if m.returnsValue then [s!"    fatalError(\"{m.name} not implemented\")"] else [])

/-- A public method. -/
def publicMethod (m : PluginMethod) (body : Lines) : Lines :=
  Lines.docComment .slashes (some m.description) ++ [s!"public {signature m} \x7b"] ++ body ++
    ["\x7d"]

/-- A method of the manager. -/
def managerMethod (p : Plugin) (m : PluginMethod) : Lines :=
  publicMethod m <| match p.protocolName with
    | some _ =>
      ["    guard let provider = provider else \x7b",
        "        fatalError(\"No provider registered\")",
        "    \x7d",
        "",
        s!"    {forwardingCall m}"]
    | none => stub m

/-- The file of the manager. -/
def managerFile (p : Plugin) : Lines :=
  header p.managerName ++
    ["import Foundation",
      "",
      s!"/// Manager for coordinating {p.description}",
      "@MainActor",
      s!"public final class {p.managerName}: ObservableObject \x7b",
      s!"    public static let shared = {p.managerName}()",
      ""] ++
    withProtocol p (fun name => [s!"    private var provider: {name}?"]) ++
    [s!"    private var {debugFlag} = false", "", "    private init() \x7b\x7d", ""] ++
    withProtocol p (fun name =>
      [s!"    /// Register a {Text.lower name}",
        s!"    public func register(_ provider: {name}, {debugFlag}: Bool = false) \x7b",
        "        self.provider = provider",
        s!"        self.{debugFlag} = {debugFlag}",
        "    \x7d",
        ""]) ++
    (p.methods.flatMap fun m => Lines.indent (managerMethod p m) 1 ++ [""]) ++ ["\x7d", ""]

/-- The file of the protocol. -/
def protocolFile (p : Plugin) (name : String) : Lines :=
  header name ++
    ["import Foundation",
      "",
      s!"/// Protocol for {Text.lower p.description} providers.",
      s!"public protocol {name}: Sendable \x7b"] ++
    (p.methods.flatMap fun m =>
      Lines.indent (Lines.docComment .slashes (some m.description)) 1 ++
        [s!"    {signature m}", ""]) ++
    ["\x7d", ""]

/-- The type of a property of a model. -/
def modelPropertyType (prop : PluginModelProperty) : String :=
  pluginType prop.type ++ (if prop.isRequired then "" else "?")

/-- The parameter of a property of a model. -/
def modelParameter (prop : PluginModelProperty) : String :=
  s!"{prop.name}: {modelPropertyType prop}" ++ (if prop.isRequired then "" else " = nil")

/-- The file of a model. -/
def modelFile (m : PluginModel) : Lines :=
  header m.name ++ ["import Foundation", ""] ++ Lines.docComment .slashes (some m.description) ++
    [s!"public struct {m.name}: Codable, Sendable \x7b"] ++
    (m.properties.flatMap fun prop =>
      storedProperty prop.name (modelPropertyType prop) prop.description) ++
    initializer (m.properties.map modelParameter)
      (m.properties.map fun prop => assignment prop.name) ++
    ["\x7d", ""]

/-- The file of a provider. -/
def providerFile (p : Plugin) (provider : PluginProvider) : Lines :=
  header provider.name ++ ["import Foundation", ""] ++
    Lines.docComment .slashes (some provider.description) ++
    [s!"public final class {provider.name}: {provider.conformance}, @unchecked Sendable \x7b",
      "    public init() \x7b\x7d",
      ""] ++
    (p.methods.flatMap fun m => Lines.indent (publicMethod m (stub m)) 1 ++ [""]) ++ ["\x7d", ""]

/-- The arguments of the configuration in the readme. -/
def exampleArguments (p : Plugin) : Lines :=
  withProtocol p (fun name => [s!"    provider: Your{name}()"]) ++
    (if p.hasDebugFlag then [s!"    {debugFlag}: true"] else [])

/-- The readme. -/
def readme (p : Plugin) : Lines :=
  [s!"# {p.name}",
    "",
    p.description,
    "",
    "## Installation",
    "",
    "```swift",
    "// Add to your Package.swift dependencies",
    s!".package(url: \"...\", from: \"{p.version}\")",
    "```",
    "",
    "## Usage",
    "",
    "```swift",
    "import CuppaCore",
    s!"import {p.name}",
    "",
    "// Configure the plugin",
    s!"let config = {p.name}Configuration("] ++
    Lines.commaSeparated (exampleArguments p) ++
    [")",
      "",
      "// Register with PluginManager",
      s!"let plugin = {p.name}()",
      "try await PluginManager.shared.register(plugin, config: config)",
      "```",
      "",
      "## License",
      "",
      s!"Copyright © {p.author}",
      ""]

/-- All files with their names, in the order in which they are written. -/
def texts (p : Plugin) : List (String × Lines) :=
  [(s!"{p.name}.swift", pluginFile p),
    (s!"{p.name}Configuration.swift", configurationFile p),
    (s!"{p.managerName}.swift", managerFile p)] ++
    (match p.protocolName with
      | some name =>
        if p.providers.isEmpty then [] else [(s!"{name}.swift", protocolFile p name)]
      | none => []) ++
    p.models.map (fun m => (s!"{m.name}.swift", modelFile m)) ++
    p.providers.map (fun provider => (s!"{provider.name}.swift", providerFile p provider)) ++
    [("README.md", readme p)]

/-- Adds a file at the end, or puts its text in the place of the file that has the name already. -/
def put (name : String) (text : Lines) : List (String × Lines) → List (String × Lines)
  | [] => [(name, text)]
  | (other, t) :: rest =>
    if other == name then (other, text) :: rest else (other, t) :: put name text rest

/-- The files that are written: of several with one name the last text counts. -/
def files (p : Plugin) : List (String × Lines) :=
  (texts p).foldl (fun written file => put file.1 file.2 written) []

end SpecForge.Plugin.Swift
