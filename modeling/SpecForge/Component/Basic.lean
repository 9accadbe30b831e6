import SpecForge.Model.Basic
import SpecForge.Decimal.Written
import SpecForge.TypeName.Component

/-!
# Components

The normalized form of the specification of a user-interface component: properties, style, states,
actions and slots, all defaults filled in.
-/

namespace SpecForge

/-- A property of a component; the type is kept as it is declared. -/
structure ComponentProperty where
  name : String
  type : String
  isRequired : Bool
  default : Value
  description : String

/-- The room around the content, side by side. -/
structure Padding where
  top : Decimal.Number
  bottom : Decimal.Number
  leading : Decimal.Number
  trailing : Decimal.Number

/-- How a component looks. -/
structure ComponentStyle where
  backgroundColor : Option String
  foregroundColor : Option String
  borderColor : Option String
  borderWidth : Option Decimal.Number
  cornerRadius : Option Decimal.Number
  padding : Padding
  font : Option String
  fontWeight : Option String
  minHeight : Option Decimal.Number
  maxWidth : Option String

/-- How a component looks and behaves in a state. -/
structure ComponentState where
  name : String
  showSpinner : Bool
  disableInteraction : Bool
  opacity : Option Decimal.Binary64
  backgroundColor : Option String
  foregroundColor : Option String
  borderColor : Option String
  scale : Option Decimal.Binary64

/-- A parameter of an action. -/
structure ActionParameter where
  name : String
  type : String
  label : Option String

/-- What a component can be told to do. -/
structure ComponentAction where
  name : String
  isAsync : Bool
  parameters : List ActionParameter
  returnType : String

/-- A place for other content. -/
structure Slot where
  name : String
  isRequired : Bool
  description : String

/-- A component. -/
structure Component where
  name : String
  category : String
  description : String
  properties : List ComponentProperty
  style : ComponentStyle
  states : List ComponentState
  actions : List ComponentAction
  slots : List Slot

/-- Does the property hold a binding? -/
def ComponentProperty.isBinding (prop : ComponentProperty) : Bool :=
  (TypeName.unwrapBinding? prop.type).isSome

/-- The type of a property in Swift. -/
def ComponentProperty.swiftType (prop : ComponentProperty) : String :=
  TypeName.component .ios prop.type

/-- The type of a parameter in Swift. -/
def ActionParameter.swiftType (param : ActionParameter) : String :=
  TypeName.component .ios param.type

namespace Component

/-- The first property that has one of the names. -/
def find? (c : Component) (names : List String) : Option ComponentProperty :=
  c.properties.find? fun prop => names.contains prop.name

/-- Is there an asynchronous action? -/
def hasAsyncAction (c : Component) : Bool := c.actions.any (·.isAsync)

/-- The state in which a component waits. -/
def loading? (c : Component) : Option ComponentState := c.states.find? (·.name == "loading")

/-- Is there a state in which the component waits? -/
def hasLoadingState (c : Component) : Bool := c.loading?.isSome

/-- The first asynchronous action, or else the first action. -/
def primaryAction? (c : Component) : Option ComponentAction :=
  (c.actions.find? (·.isAsync)).orElse fun _ => c.actions.head?

end Component

end SpecForge
