import SpecForge.Document.Shape
import SpecForge.Plugin.Basic

/-!
# Plugins from specifications

A plugin specification is checked part by part and normalized. Descriptions default to names, and a
plugin without a configuration gets one with the setting for finding faults. There are also the
specifications that new plugins start from.
-/

namespace SpecForge.Plugin

open Shape

/-- A setting. -/
def readConfigProperty : Reader ConfigProperty := fun v => do
  let ms ← record "ConfigProperty" v
  let name ← required "name" "name" text ms
  let type ← required "type" "type" text ms
  let description ← possible "description" "description" text ms
  let isRequired ← given "required" "required" false truth ms
  let default ← given "defaultValue" "default_value" .null any ms
  return ⟨name, type, textOr description name, isRequired, default⟩

/-- The settings. -/
def readConfiguration : Reader (List ConfigProperty) := fun v => do
  let ms ← record "Configuration" v
  given "properties" "properties" [] (list readConfigProperty) ms

/-- A parameter. -/
def readParameter : Reader MethodParameter := fun v => do
  let ms ← record "MethodParameter" v
  let name ← required "name" "name" text ms
  let type ← required "type" "type" text ms
  let isRequired ← given "required" "required" true truth ms
  let default ← given "defaultValue" "default_value" .null any ms
  return ⟨name, type, isRequired, default⟩

/-- A method. -/
def readMethod : Reader PluginMethod := fun v => do
  let ms ← record "Method" v
  let name ← required "name" "name" text ms
  let description ← possible "description" "description" text ms
  let parameters ← given "parameters" "parameters" [] (list readParameter) ms
  let returnType ← given "returnType" "return_type" "void" text ms
  let isAsync ← given "isAsync" "is_async" false truth ms
  let throws ← given "throws" "throws" false truth ms
  return ⟨name, textOr description name, parameters, returnType, isAsync, throws⟩

/-- A property of a model. -/
def readModelProperty : Reader PluginModelProperty := fun v => do
  let ms ← record "ModelProperty" v
  let name ← required "name" "name" text ms
  let type ← required "type" "type" text ms
  let description ← possible "description" "description" text ms
  let isRequired ← given "required" "required" false truth ms
  return ⟨name, type, textOr description name, isRequired⟩

/-- A model. -/
def readModel : Reader PluginModel := fun v => do
  let ms ← record "Model" v
  let name ← required "name" "name" text ms
  let description ← possible "description" "description" text ms
  let properties ← given "properties" "properties" [] (list readModelProperty) ms
  return ⟨name, textOr description name, properties⟩

/-- A provider, the protocol being given for one that names none. -/
def readProvider (protocolName : String) : Reader PluginProvider := fun v => do
  let ms ← record "Provider" v
  let name ← required "name" "name" text ms
  let description ← possible "description" "description" text ms
  let conformance ← possible "protocol" "protocol" text ms
  return ⟨name, textOr description name, textOr conformance protocolName⟩

/-- Who made a plugin that names no author. -/
def defaultAuthor : String := "MyCuppa Team"

/-- The version of a plugin that names none. -/
def defaultVersion : String := "1.0.0"

/-- The words for the setting for finding faults. -/
def debugDescription : String := "Whether to enable debug logging"

/-- The setting for finding faults. -/
def debugProperty : ConfigProperty := ⟨debugFlag, "boolean", debugDescription, false, .bool false⟩

/-- The identifier of a plugin that has none of its own. -/
def defaultIdentifier (name : String) : String := "com.cuppa." ++ Text.lower name

/-- A plugin. -/
def read : Reader Plugin := fun v => do
  let ms ← record "PluginSpec" v
  let name ← required "name" "name" text ms
  let identifier ← possible "identifier" "identifier" text ms
  let version ← possible "version" "version" text ms
  let description ← possible "description" "description" text ms
  let author ← possible "author" "author" text ms
  let dependencies ← given "dependencies" "dependencies" [] (list text) ms
  let configuration ← possible "configuration" "configuration" readConfiguration ms
  let methods ← given "methods" "methods" [] (list readMethod) ms
  let models ← given "models" "models" [] (list readModel) ms
  let protocolName := name ++ "Provider"
  let providers ← given "providers" "providers" [] (list (readProvider protocolName)) ms
  return {
    name := name ++ "Plugin"
    identifier := textOr identifier (defaultIdentifier name)
    version := textOr version defaultVersion
    description := textOr description ("Plugin for " ++ name ++ " functionality")
    author := textOr author defaultAuthor
    dependencies := dependencies
    configuration := configuration.getD [debugProperty]
    methods := methods
    models := models
    providers := providers
    managerName := name ++ "Manager"
    protocolName := if providers.isEmpty then none else some protocolName }

/-- The plugin of a specification. -/
def ofSpec (doc : Value) : Outcome Plugin :=
  match read doc with
  | .ok p => .ok p
  | .error i => .error (.spec (.invalid "plugin" i))

/-- What a new plugin starts with. -/
inductive Template where
  | basic
  | provider
  | service
deriving DecidableEq

/-- All templates. -/
def Template.all : List Template := [.basic, .provider, .service]

/-- The name of a template. -/
def Template.name : Template → String
  | .basic => "basic"
  | .provider => "provider"
  | .service => "service"

/-- The template with the given name, the basic one for a name that there is not. -/
def Template.ofName (s : String) : Template := (all.find? (·.name == s)).getD .basic

/-- A method of a template, without answer and asynchronous. -/
def templateMethod (name description : String) (throws : Bool) : Value :=
  .record [("name", .str name), ("description", .str description), ("parameters", .list []),
    ("returnType", .str "void"), ("isAsync", .bool true), ("throws", .bool throws)]

/-- What a template adds to the specification. -/
def Template.members (name : String) : Template → List (String × Value)
  | .basic => []
  | .provider =>
    [("configuration", .record [("properties", .list [
        .record [("name", .str debugFlag), ("type", .str "boolean"),
          ("description", .str debugDescription), ("required", .bool false),
          ("defaultValue", .bool false)]])]),
      ("methods", .list [
        templateMethod "initialize" "Initialize the service" true,
        .record [("name", .str "performAction"), ("description", .str "Perform the main action"),
          ("parameters", .list [.record
            [("name", .str "input"), ("type", .str "string"), ("required", .bool true)]]),
          ("returnType", .str "string"), ("isAsync", .bool true), ("throws", .bool true)]]),
      ("providers", .list [
        .record [("name", .str ("Console" ++ name ++ "Provider")),
          ("description", .str ("Console-based " ++ name ++ " provider for testing"))]])]
  | .service =>
    [("methods", .list [
      templateMethod "start" "Start the service" false,
      templateMethod "stop" "Stop the service" false])]

/-- The specification of a new plugin. -/
def templateSpec (name : String) (template : Template) : Value :=
  .record ([("name", .str name), ("identifier", .str (defaultIdentifier name)),
    ("version", .str defaultVersion), ("description", .str (name ++ " functionality")),
    ("author", .str defaultAuthor), ("dependencies", .list [])] ++ template.members name)

end SpecForge.Plugin
