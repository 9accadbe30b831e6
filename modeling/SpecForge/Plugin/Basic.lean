import SpecForge.Document.Value
import SpecForge.Text.Case
import SpecForge.TypeName.Schema

/-!
# Plugins

The normalized form of the specification of a plugin: what it is called, how it is configured, which
methods and models it has, and who can provide its service. All defaults are filled in.
-/

namespace SpecForge

/-- A setting of a plugin. -/
structure ConfigProperty where
  name : String
  type : String
  description : String
  isRequired : Bool
  default : Value

/-- A parameter of a method of a plugin. -/
structure MethodParameter where
  name : String
  type : String
  isRequired : Bool
  default : Value

/-- A method of a plugin. -/
structure PluginMethod where
  name : String
  description : String
  parameters : List MethodParameter
  returnType : String
  isAsync : Bool
  throws : Bool

/-- A property of a model of a plugin. -/
structure PluginModelProperty where
  name : String
  type : String
  description : String
  isRequired : Bool

/-- A model of a plugin. -/
structure PluginModel where
  name : String
  description : String
  properties : List PluginModelProperty

/-- A class that provides the service of a plugin, and the protocol it conforms to. -/
structure PluginProvider where
  name : String
  description : String
  conformance : String

/-- A plugin. The protocol of its providers is there exactly if it has providers. -/
structure Plugin where
  name : String
  identifier : String
  version : String
  description : String
  author : String
  dependencies : List String
  configuration : List ConfigProperty
  methods : List PluginMethod
  models : List PluginModel
  providers : List PluginProvider
  managerName : String
  protocolName : Option String

/-- Does a method give an answer? -/
def PluginMethod.returnsValue (m : PluginMethod) : Bool := Text.lower m.returnType != "void"

/-- The setting that turns on the messages for finding faults. -/
def debugFlag : String := "enableDebugLogging"

/-- Is there the setting for finding faults? -/
def Plugin.hasDebugFlag (p : Plugin) : Bool := p.configuration.any (·.name == debugFlag)

/-- The type of a setting, parameter or answer in Swift. -/
def pluginType (type : String) : String := TypeName.schema .ios type none

end SpecForge
