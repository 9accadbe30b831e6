import SpecForge.Command.Generate
import SpecForge.Command.Markup
import SpecForge.Component.Spec

/-!
# Generating one component or plugin

A component comes from a specification or from a name alone, a plugin from a name and a template.
Their files are written whether or not they are there already.
-/

namespace SpecForge.Command

open Activity

namespace ComponentRequest

/-- The specification, and what the generated file names as its source. -/
def specification (r : ComponentRequest) (base : Project.Path) : Activity (Value × String) := do
  match written? r.source, written? r.name with
  | some s, _ =>
    let path := base.join s
    if ← exists? path then return (← ofOutcome ((← files).document path), path.name)
    else fail (.spec (.noFile "Component specification" path.text))
  | none, some name =>
    let category := (written? r.category).getD "components"
    return (Component.basicSpec name category, "inline")
  | none, none => fail (.spec .nothingNamed)

/-- What comes next for the user. -/
def nextSteps : List String :=
  ["  1. Review the generated component",
    "  2. Add it to your Xcode project or Package.swift",
    "  3. Use it in your SwiftUI views",
    ""]

/-- Generates a component. -/
def perform (r : ComponentRequest) (base : Project.Path) : Activity Unit := do
  let (document, label) ← r.specification base
  let platform := Text.lower r.platform
  let component ← ofOutcome (Component.ofSpec document)
  let _ ← ofOutcome (Generator.builtin.get SpecKind.component.name platform)
  lines [s!"\nGenerating component: {component.name}", s!"  Category: {component.category}",
    s!"  Platform: {platform}", ""]
  let file ← ofOutcome (component.sourceFile label)
  let directory ← ofOutcome
    (Project.Layout.componentDirectory base platform component.category r.output)
  let target := directory.join file.name
  write target file.text
  success s!"Component generated: {component.name}"
  blank
  success s!"File created: {target.text}"
  blank
  note "Next steps:"
  lines nextSteps

end ComponentRequest

namespace PluginRequest

/-- Writes files into a directory. -/
def writeFiles (directory : Project.Path) : List SourceFile → Activity Unit
  | [] => pure ()
  | file :: rest => do
    write (directory.join file.name) file.text
    success s!"  {file.name}"
    writeFiles directory rest

/-- What comes next for the user. -/
def nextSteps : List String :=
  ["  1. Implement the TODO methods in the generated files",
    "  2. Add tests for your plugin",
    "  3. Register the plugin in your app",
    ""]

/-- Generates a plugin. -/
def perform (r : PluginRequest) (base : Project.Path) : Activity Unit := do
  let platform := Text.lower r.platform
  let plugin ← ofOutcome (Plugin.ofSpec (Plugin.templateSpec r.name r.template))
  let _ ← ofOutcome (Generator.builtin.get SpecKind.plugin.name platform)
  lines [s!"\nGenerating plugin: {plugin.name}", s!"  Platform: {platform}",
    s!"  Template: {r.template.name}", ""]
  let directory ← ofOutcome
    (Project.Layout.pluginDirectory base platform plugin.name r.output)
  ofOutcome (Markup.check s!"Generating {r.name} plugin...")
  let sources ← ofOutcome plugin.sourceFiles
  writeFiles directory sources
  success s!"Generated {sources.length} files for {plugin.name}"
  blank
  note s!"Plugin created at: {directory.text}"
  blank
  note "Next steps:"
  lines nextSteps

end PluginRequest

end SpecForge.Command
