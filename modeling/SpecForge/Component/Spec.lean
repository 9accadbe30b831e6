import SpecForge.Component.Basic
import SpecForge.Document.Shape

/-!
# Components from specifications

A component specification is checked part by part and normalized: descriptions default to names,
padding is spread over the four sides, and states and actions get their defaults. Keys may be
written with inner capitals or with underscores.
-/

namespace SpecForge

namespace Component

open Shape Decimal

/-- A property. -/
def readProperty : Reader ComponentProperty := fun v => do
  let ms ← record "ComponentProperty" v
  let name ← required "name" "name" text ms
  let type ← required "type" "type" text ms
  let isRequired ← given "required" "required" false truth ms
  let default ← given "defaultValue" "default_value" .null any ms
  let description ← possible "description" "description" text ms
  return ⟨name, type, isRequired, default, textOr description name⟩

/-- The room on a side where none is given. -/
def defaultPadding : Number := .int 16

/-- The room on each side, the default where it is missing or null. -/
def readSides : Reader Padding := fun v => do
  let ms ← record "PaddingSpec" v
  let top ← possible "top" "top" number ms
  let bottom ← possible "bottom" "bottom" number ms
  let leading ← possible "leading" "leading" number ms
  let trailing ← possible "trailing" "trailing" number ms
  let side (n : Option Number) : Number := n.getD defaultPadding
  return ⟨side top, side bottom, side leading, side trailing⟩

/-- One number for all sides, or an object with one number per side. -/
def readPadding : Reader Padding := fun v =>
  if v.isObject then
    match readSides v with
    | .ok p => .ok p
    | .error _ => under "int" (here .whole)
  else (number v).map fun n => ⟨n, n, n, n⟩

/-- The same room on all sides. -/
def plainPadding : Padding := ⟨defaultPadding, defaultPadding, defaultPadding, defaultPadding⟩

/-- The style where none is given. -/
def plainStyle : ComponentStyle :=
  { backgroundColor := none, foregroundColor := none, borderColor := none, borderWidth := none,
    cornerRadius := none, padding := plainPadding, font := none, fontWeight := none,
    minHeight := none, maxWidth := none }

/-- A style. -/
def readStyle : Reader ComponentStyle := fun v => do
  let ms ← record "ComponentStyle" v
  let backgroundColor ← possible "backgroundColor" "background_color" text ms
  let foregroundColor ← possible "foregroundColor" "foreground_color" text ms
  let borderColor ← possible "borderColor" "border_color" text ms
  let borderWidth ← possible "borderWidth" "border_width" number ms
  let cornerRadius ← possible "cornerRadius" "corner_radius" number ms
  let padding ← possible "padding" "padding" readPadding ms
  let font ← possible "font" "font" text ms
  let fontWeight ← possible "fontWeight" "font_weight" text ms
  let minHeight ← possible "minHeight" "min_height" number ms
  let maxWidth ← possible "maxWidth" "max_width" text ms
  return {
    backgroundColor := backgroundColor
    foregroundColor := foregroundColor
    borderColor := borderColor
    borderWidth := borderWidth
    cornerRadius := cornerRadius
    padding := padding.getD plainPadding
    font := font
    fontWeight := fontWeight
    minHeight := minHeight
    maxWidth := maxWidth }

/-- A state as it is specified, with numbers of any size. -/
structure StateSpec where
  showSpinner : Bool
  disableInteraction : Bool
  opacity : Option Number
  backgroundColor : Option String
  foregroundColor : Option String
  borderColor : Option String
  scale : Option Number

/-- The double nearest to a number. A number that is too large for a double is none. -/
def doubleOf : Number → Except Issue Binary64
  | .float x => .ok x
  | .int n => match Binary64.ofInt n with
    | .infinite _ => here .number
    | x => .ok x

/-- The double nearest to a number that may be missing. -/
def doubleOf? : Option Number → Except Issue (Option Binary64)
  | some n => (doubleOf n).map some
  | none => .ok none

/-- The state of a specification. -/
def StateSpec.normalize (name : String) (s : StateSpec) : Except Issue ComponentState := do
  let opacity ← under "opacity" (doubleOf? s.opacity)
  let scale ← under "scale" (doubleOf? s.scale)
  return {
    name := name
    showSpinner := s.showSpinner
    disableInteraction := s.disableInteraction
    opacity := opacity
    backgroundColor := s.backgroundColor
    foregroundColor := s.foregroundColor
    borderColor := s.borderColor
    scale := scale }

/-- A state. -/
def readState : Reader StateSpec := fun v => do
  let ms ← record "ComponentState" v
  let showSpinner ← given "showSpinner" "show_spinner" false truth ms
  let disableInteraction ← given "disableInteraction" "disable_interaction" false truth ms
  let opacity ← possible "opacity" "opacity" number ms
  let backgroundColor ← possible "backgroundColor" "background_color" text ms
  let foregroundColor ← possible "foregroundColor" "foreground_color" text ms
  let borderColor ← possible "borderColor" "border_color" text ms
  let scale ← possible "scale" "scale" number ms
  return {
    showSpinner := showSpinner
    disableInteraction := disableInteraction
    opacity := opacity
    backgroundColor := backgroundColor
    foregroundColor := foregroundColor
    borderColor := borderColor
    scale := scale }

/-- A parameter of an action. -/
def readActionParameter : Reader ActionParameter := fun v => do
  let ms ← record "ActionParameter" v
  let name ← required "name" "name" text ms
  let type ← required "type" "type" text ms
  let label ← possible "label" "label" text ms
  return ⟨name, type, label⟩

/-- Is an action asynchronous, by the word that says so? -/
def readCallStyle : Reader Bool
  | .str "sync" => .ok false
  | .str "async" => .ok true
  | _ => here .callStyle

/-- An action. -/
def readAction : Reader ComponentAction := fun v => do
  let ms ← record "ComponentAction" v
  let name ← required "name" "name" text ms
  let isAsync ← given "type" "type" false readCallStyle ms
  let parameters ← given "parameters" "parameters" [] (list readActionParameter) ms
  let returnType ← possible "returnType" "return_type" text ms
  return ⟨name, isAsync, parameters, textOr returnType "Void"⟩

/-- A slot. -/
def readSlot : Reader Slot := fun v => do
  let ms ← record "ComponentSlot" v
  let name ← required "name" "name" text ms
  let isRequired ← given "required" "required" false truth ms
  let description ← possible "description" "description" text ms
  return ⟨name, isRequired, textOr description name⟩

/-- A component, whose states are still to be normalized. -/
def read : Reader (Component × List (String × StateSpec)) := fun v => do
  let ms ← record "ComponentSpec" v
  let name ← required "component" "component" text ms
  let category ← given "category" "category" "components" text ms
  let description ← possible "description" "description" text ms
  let properties ← given "properties" "properties" [] (list readProperty) ms
  let style ← possible "style" "style" readStyle ms
  let states ← given "states" "states" [] (table readState) ms
  let actions ← given "actions" "actions" [] (list readAction) ms
  let slots ← given "slots" "slots" [] (list readSlot) ms
  let component : Component := {
    name := name
    category := category
    description := textOr description name
    properties := properties
    style := style.getD plainStyle
    states := []
    actions := actions
    slots := slots }
  return (component, states)

/-- The component of a specification. -/
def ofSpec (doc : Value) : Outcome Component :=
  match read doc with
  | .error i => .error (.spec (.invalid "component" i))
  | .ok (component, states) => checked do
    let states ← states.mapM fun (name, state) => state.normalize name
    return { component with states := states }

/-- The specification of a button with a title, used where no specification is given. -/
def basicSpec (name category : String) : Value :=
  .record [
    ("component", .str name),
    ("category", .str category),
    ("description", .str (name ++ " component")),
    ("properties", .list [
      .record [("name", .str "title"), ("type", .str "String"), ("required", .bool true),
        ("description", .str "Button text")],
      .record [("name", .str "isLoading"), ("type", .str "Bool"), ("required", .bool false),
        ("defaultValue", .bool false), ("description", .str "Loading state")]]),
    ("style", .record [("backgroundColor", .str "blue"), ("foregroundColor", .str "white"),
      ("cornerRadius", .int 12), ("padding", .int 16), ("font", .str "body"),
      ("fontWeight", .str "semibold"), ("maxWidth", .str "infinity"), ("minHeight", .int 44)]),
    ("states", .record [
      ("loading", .record [("showSpinner", .bool true), ("disableInteraction", .bool true)])]),
    ("actions", .list [
      .record [("name", .str "action"), ("type", .str "async"), ("parameters", .list [])]])]

end Component

end SpecForge
