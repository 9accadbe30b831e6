import SpecForge.Component.Basic
import SpecForge.Lines

/-!
# Components in Swift

A component becomes a view: stored properties, state, actions, initializers, body and helpers, and a
preview after it. If an action is asynchronous, the first such action drives the button, and a
second initializer takes a plain closure in its place and wraps it in a task.
-/

namespace SpecForge.Component.Swift

/-- The comment at the top of a file. -/
def header (c : Component) (source : String) : Lines :=
  ["//",
    s!"//  {c.name}.swift",
    "//  CuppaUI",
    "//",
    s!"//  Generated from component specifications on {Lines.generationDate}.",
    "//",
    s!"//  {c.description}",
    "//",
    "//  ⚠️ DO NOT EDIT: This file is auto-generated from component specifications.",
    s!"//  Source: {source}",
    "//  To make changes, update the component JSON files and regenerate.",
    "//",
    ""]

/-- A truth value in the code. -/
def truthText (b : Bool) : String := if b then "true" else "false"

/-- The type that decides how a default is spelled: that which a binding binds. -/
def defaultBase (type : String) : String :=
  match TypeName.unwrapBinding? type with
  | some inner => if inner.isEmpty then type else inner
  | none => type

/-- The default of a property; an optional one without default is nothing. -/
def defaultLiteral (prop : ComponentProperty) : Option String :=
  match prop.default with
  | .null => if Text.endsWith prop.type "?" then some "nil" else none
  | value =>
    let base := defaultBase prop.type
    if base == "String" then some (quoted value.text)
    else if base == "Bool" then some (truthText value.isGiven)
    else if base == "Color" then some ("." ++ value.text)
    else match value with
      | .bool b => some (truthText b)
      | value => some value.text

/-- Can the default of a property be spelled, if it has one? -/
def hasSpellableDefault (prop : ComponentProperty) : Bool :=
  prop.isRequired || defaultBase prop.type == "Bool" || prop.default.isSpellable

/-- The mark of an asynchronous closure. -/
def asyncMark (isAsync : Bool) : String := if isAsync then " async" else ""

/-- The type of the closure of an action, asynchronous or not. -/
def closureTypeAs (isAsync : Bool) (a : ComponentAction) : String :=
  let params := ", ".intercalate (a.parameters.map ActionParameter.swiftType)
  s!"({params}){asyncMark isAsync} -> {TypeName.component .ios a.returnType}"

/-- The type of the closure of an action. -/
def closureType (a : ComponentAction) : String := closureTypeAs a.isAsync a

/-- The argument of an example call. -/
def exampleArgument (prop : ComponentProperty) : String :=
  if prop.type == "String" then s!"{prop.name}: {quoted prop.name}"
  else if prop.type == "Bool" then s!"{prop.name}: true"
  else if prop.type == "Int" || prop.type == "Double" then s!"{prop.name}: 0"
  else if prop.isBinding then s!"{prop.name}: ${prop.name}"
  else s!"{prop.name}: {prop.name}"

/-- The documentation of the view. -/
def documentation (c : Component) : Lines :=
  let arguments := ", ".intercalate ((c.properties.filter (·.isRequired)).map exampleArgument)
  let features := (c.properties.filter fun prop => prop.description != prop.name).map
    fun prop => s!"/// - {prop.description}"
  [s!"/// {c.description}", "///", "/// Features:"] ++
    (if c.hasAsyncAction then ["/// - Async action support", "/// - Synchronous action support"]
     else []) ++
    (if c.hasLoadingState then
      ["/// - Loading state with spinner", "/// - Automatic state management"]
     else []) ++
    features ++ ["///", "/// Example:", "/// ```swift"] ++
    (if c.actions.isEmpty then [s!"/// {c.name}({arguments})"]
     else [s!"/// {c.name}({arguments}) \x7b", "///     // Handle action", "/// \x7d"]) ++
    ["/// ```"]

/-- The declaration of a stored property. -/
def storedProperty (prop : ComponentProperty) : String :=
  if prop.isBinding then s!"@Binding var {prop.name}: {prop.swiftType}"
  else s!"let {prop.name}: {prop.swiftType}"

/-- The stored properties. -/
def properties (c : Component) : Lines :=
  if c.properties.isEmpty then []
  else ["// MARK: - Properties", ""] ++ c.properties.map storedProperty

/-- The state of the view. -/
def state (c : Component) : Lines :=
  if c.hasAsyncAction then ["@State private var isPerformingAction = false"] else []

/-- The closures of the actions. -/
def actions (c : Component) : Lines :=
  c.actions.map fun a => s!"let {a.name}: {closureType a}"

/-- A parameter of an initializer. -/
structure Parameter where
  name : String
  type : String
  default : Option String

/-- The declaration of a parameter. -/
def Parameter.text (param : Parameter) : String :=
  match param.default with
  | some literal =>
    if literal.isEmpty then s!"{param.name}: {param.type}"
    else s!"{param.name}: {param.type} = {literal}"
  | none => s!"{param.name}: {param.type}"

/-- The parameter of a property. -/
def propertyParameter (prop : ComponentProperty) : Parameter :=
  { name := prop.name
    type := if prop.isBinding then s!"Binding<{prop.swiftType}>" else prop.swiftType
    default := if prop.isRequired then none else defaultLiteral prop }

/-- The parameter of an action, as a plain closure if it is wrapped. -/
def actionParameter (isWrapped : Bool) (a : ComponentAction) : Parameter :=
  ⟨a.name, "@escaping " ++ closureTypeAs (a.isAsync && !isWrapped) a, none⟩

/-- The assignment of a property. -/
def propertyAssignment (prop : ComponentProperty) : String :=
  let mark := if prop.isBinding then "_" else "self."
  s!"    {mark}{prop.name} = {prop.name}"

/-- The assignment of an action, in a task if it is wrapped. -/
def actionAssignment (isWrapped : Bool) (a : ComponentAction) : Lines :=
  if isWrapped then
    [s!"    self.{a.name} = \x7b", s!"        Task \x7b {a.name}() \x7d", "    \x7d"]
  else [s!"    self.{a.name} = {a.name}"]

/-- The actions, each with the answer whether it is the first asynchronous one. -/
def marked : List ComponentAction → List (Bool × ComponentAction)
  | [] => []
  | a :: rest => if a.isAsync then (true, a) :: rest.map (false, ·) else (false, a) :: marked rest

/-- An initializer, the actions being marked that it wraps. -/
def initializer (props : List ComponentProperty) (acts : List (Bool × ComponentAction)) : Lines :=
  let params := props.map propertyParameter ++ acts.map fun a => actionParameter a.1 a.2
  ["public init("] ++
    (Lines.commaSeparated (params.map Parameter.text)).map (fun line => "    " ++ line) ++
    [") \x7b"] ++ props.map propertyAssignment ++
    acts.flatMap (fun a => actionAssignment a.1 a.2) ++ ["\x7d"]

/-- The initializers: a second one if there is an asynchronous action. -/
def initializers (c : Component) : Lines :=
  let plain := initializer c.properties (c.actions.map (false, ·))
  ["// MARK: - Initialization", ""] ++
    (if c.hasAsyncAction then
      ["/// Async action initializer"] ++ plain ++ ["", "/// Synchronous action initializer"] ++
        initializer c.properties (marked c.actions)
     else plain)

/-- The condition under which the component waits. -/
def busy (c : Component) : String :=
  let flags := (if (c.find? ["isLoading"]).isSome then ["isLoading"] else []) ++
    (if c.hasAsyncAction then ["isPerformingAction"] else [])
  if flags.isEmpty then "false" else " || ".intercalate flags

/-- The names that stand for a title. -/
def titleNames : List String := ["title", "text"]

/-- The names that stand for an icon. -/
def iconNames : List String := ["icon", "iconName"]

/-- The content of the view. -/
def content (c : Component) : Lines :=
  let icon := (c.find? iconNames).map fun prop => s!"Image(systemName: {prop.name})"
  let title := (c.find? titleNames).map fun prop => s!"Text({prop.name})"
  let message := (c.find? ["message"]).map fun prop => s!"Text({prop.name})"
  if !c.hasLoadingState then
    [(icon.orElse fun _ => message.orElse fun _ => title).getD "EmptyView()"]
  else
    let shown := match icon.orElse fun _ => title with
      | some line => [s!"    {line}", s!"        .opacity(({busy c}) ? 0 : 1)"]
      | none => []
    ["ZStack \x7b"] ++ shown ++
      ["",
        s!"    if {busy c} \x7b",
        "        ProgressView()",
        "            .progressViewStyle(CircularProgressViewStyle())",
        "    \x7d",
        "\x7d"]

/-- A line for a text of the style, unless it is missing or empty. -/
def textLine (text : Option String) (line : String → String) : Lines :=
  match text with
  | some s => if s.isEmpty then [] else [line s]
  | none => []

/-- A number of the style, unless it is missing or zero. -/
def nonZero? (n : Option Decimal.Number) : Option Decimal.Number :=
  n.bind fun n => if n.isZero then none else some n

/-- A line for a number of the style, unless it is missing or zero. -/
def numberLine (n : Option Decimal.Number) (line : String → String) : Lines :=
  match nonZero? n with
  | some n => [line n.text]
  | none => []

/-- The frame around the content, if color and width are given. -/
def border (s : ComponentStyle) : Lines :=
  match nonZero? s.borderWidth with
  | none => []
  | some width =>
    let radius := ((nonZero? s.cornerRadius).map Decimal.Number.text).getD "0"
    (textLine s.borderColor fun color =>
      s!"        .strokeBorder(.{color}, lineWidth: {width.text})").flatMap fun line =>
        [".overlay(", s!"    RoundedRectangle(cornerRadius: {radius})", line, ")"]

/-- Can the numbers of a style be spelled? The width of a border counts only if the border has a
color. -/
def hasSpellableNumbers (s : ComponentStyle) : Bool :=
  let width := if (textLine s.borderColor id).isEmpty then none else s.borderWidth
  [some s.padding.top, some s.padding.leading, s.cornerRadius, width, s.minHeight].all fun n =>
    (n.map Decimal.Number.isSpellable).getD true

/-- The modifiers for the style. -/
def styling (s : ComponentStyle) : Lines :=
  textLine s.font (fun v => s!".font(.{v})") ++
    textLine s.fontWeight (fun v => s!".fontWeight(.{v})") ++
    textLine s.foregroundColor (fun v => s!".foregroundStyle(.{v})") ++
    [s!".padding(.vertical, {s.padding.top.text})",
      s!".padding(.horizontal, {s.padding.leading.text})"] ++
    textLine s.backgroundColor (fun v => s!".background(.{v})") ++
    numberLine s.cornerRadius (fun v => s!".clipShape(RoundedRectangle(cornerRadius: {v}))") ++
    border s ++ textLine s.maxWidth (fun v => s!".frame(maxWidth: .{v})") ++
    numberLine s.minHeight (fun v => s!".frame(minHeight: {v})")

/-- What the button calls. -/
def buttonCall (c : Component) (primary : ComponentAction) : String :=
  if c.hasAsyncAction then "handleAction()" else s!"{primary.name}()"

/-- The opacity of a component that waits, where none is given. -/
def waitingOpacity : Decimal.Binary64 := .ofDecimal false 6 (-1)

/-- The modifiers for the state in which the component waits. -/
def loadingLines (c : Component) : Lines :=
  match c.loading? with
  | none => []
  | some s =>
    let opacity := (s.opacity.getD waitingOpacity).text
    (if s.disableInteraction then [s!".disabled({busy c})"] else []) ++
      [s!".opacity(({busy c}) ? {opacity} : 1.0)"]

/-- The content in a button, if there is an action. -/
def interactive (c : Component) : Lines :=
  let inner := content c ++ styling c.style
  match c.primaryAction? with
  | some primary =>
    ["Button \x7b", s!"    {buttonCall c primary}", "\x7d label: \x7b"] ++
      Lines.indent inner 1 ++ ["\x7d", ".buttonStyle(.plain)"]
  | none => inner

/-- The body of the view. -/
def body (c : Component) : Lines :=
  ["// MARK: - Body", "", "public var body: some View \x7b"] ++
    Lines.indent (interactive c ++ loadingLines c) 1 ++ ["\x7d"]

/-- The helper that awaits the first asynchronous action. -/
def helpers (c : Component) : Lines :=
  match c.actions.find? (·.isAsync) with
  | none => []
  | some primary =>
    ["// MARK: - Actions",
      "",
      "private func handleAction() \x7b",
      "    Task \x7b",
      "        isPerformingAction = true",
      s!"        await {primary.name}()",
      "        isPerformingAction = false",
      "    \x7d",
      "\x7d"]

/-- The argument of a property in the preview; nothing where the default of the initializer is
relied on. -/
def previewValue (c : Component) (prop : ComponentProperty) : Option String :=
  if prop.isBinding then some (if prop.swiftType == "Bool" then "$previewBool" else "$previewText")
  else if titleNames.contains prop.name then some (quoted c.name)
  else if prop.name == "message" then some (quoted s!"This is a {prop.name}")
  else if iconNames.contains prop.name || prop.name == "systemIcon" then some "\"star.fill\""
  else if !prop.isRequired then none
  else if prop.swiftType == "String" then some (quoted prop.name)
  else if prop.swiftType == "Bool" then some "false"
  else if prop.swiftType == "Int" || prop.swiftType == "Double" then some "0"
  else if Text.startsWith prop.swiftType "[" then some "[]"
  else if Text.endsWith prop.swiftType "?" then some "nil"
  else none

/-- The arguments of the preview. -/
def previewArguments (c : Component) : List String :=
  c.properties.filterMap fun prop =>
    (previewValue c prop).map fun value => s!"{prop.name}: {value}"

/-- The call of the view in the preview. -/
def previewCall (c : Component) : Lines :=
  let arguments := ", ".intercalate (previewArguments c)
  let call := s!"{c.name}({arguments})"
  if c.hasAsyncAction then
    [s!"        {call} \x7b", "            // Async action", "        \x7d"]
  else if c.actions.isEmpty then [s!"        {call}"]
  else [s!"        {call} \x7b", "            print(\"Action triggered\")", "        \x7d"]

/-- The preview. -/
def preview (c : Component) : Lines :=
  let bindings := c.properties.filter (·.isBinding)
  [s!"#Preview({quoted c.name}) \x7b"] ++
    (if bindings.any fun prop => prop.swiftType != "Bool" then
      ["    @Previewable @State var previewText = \"\""]
     else []) ++
    (if bindings.any fun prop => prop.swiftType == "Bool" then
      ["    @Previewable @State var previewBool = false"]
     else []) ++
    ["    VStack(spacing: 20) \x7b"] ++ previewCall c ++ ["    \x7d", "    .padding()", "\x7d", ""]

/-- The imports. -/
def imports (c : Component) : Lines :=
  ["import SwiftUI"] ++
    (if c.category == "forms" || c.hasAsyncAction then ["import CuppaCore"] else []) ++ [""]

/-- The blocks of declarations in the view, empty ones left out. -/
def blocks (c : Component) : List Lines :=
  [properties c, state c, actions c, initializers c, body c, helpers c].filter fun b => !b.isEmpty

/-- The blocks one level in, with an empty line between neighbours. -/
def separated : List Lines → Lines
  | [] => []
  | [b] => Lines.indent b 1
  | b :: rest => Lines.indent b 1 ++ [""] ++ separated rest

/-- Can all numbers in the code of a component be spelled? -/
def isSpellable (c : Component) : Bool :=
  c.properties.all hasSpellableDefault && hasSpellableNumbers c.style

/-- The file of a component. -/
def file (c : Component) (source : String) : Lines :=
  header c source ++ imports c ++ documentation c ++ [s!"public struct {c.name}: View \x7b"] ++
    separated (blocks c) ++ ["\x7d", ""] ++ preview c

end SpecForge.Component.Swift
