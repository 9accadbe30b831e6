import SpecForge.Lines
import SpecForge.Platform
import SpecForge.Text.Case
import SpecForge.Text.Split

/-!
# What a new project holds

The directories, the readme and the list of ignored files of a new project. They depend on the
platforms that were chosen, and the platforms may be given as a list of names or as one text.
-/

namespace SpecForge.Project

/-- The platforms of a project: the names as they are listed, and which of the platforms there are
belong to it. -/
structure Selection where
  names : List String
  includes : Platform → Bool

/-- The platforms whose names are listed. -/
def Selection.ofNames (names : List String) : Selection :=
  ⟨names, fun p => names.contains p.name⟩

/-- The platforms whose names occur in a text; the characters of the text are the names listed. -/
def Selection.ofText (s : String) : Selection :=
  ⟨s.toList.map String.singleton, fun p => Text.occursIn p.name.toList s.toList⟩

/-- The chosen platforms in their fixed order. -/
def Selection.platforms (chosen : Selection) : List Platform := Platform.all.filter chosen.includes

/-- The directories for specifications and scripts. -/
def fixedDirectories : List String :=
  ["cuppa-specs/models", "cuppa-specs/api", "cuppa-specs/design", "cuppa-specs/architecture",
    "scripts"]

/-- The directories of a new project. -/
def directories (chosen : Selection) : List String :=
  fixedDirectories ++ chosen.platforms.map fun p => "platforms/" ++ p.name

/-- The files that are left out of the version history. -/
def ignored : String :=
  Lines.joined
    ["# Dependencies", "node_modules/", ".pnpm-store/", "",
      "# Build outputs", "dist/", "build/", ".next/", "",
      "# Platform-specific", "platforms/ios/.build/", "platforms/ios/DerivedData/",
      "platforms/android/build/", "platforms/android/.gradle/", "",
      "# IDE", ".vscode/", ".idea/", "*.swp", "*.swo", "",
      "# OS", ".DS_Store", "Thumbs.db", "",
      "# Environment", ".env", ".env.local", ""]

/-- What has to be installed. -/
def prerequisites (chosen : Selection) (packageManager : String) : Lines :=
  ["- Node.js 18+", s!"- {packageManager}"] ++
    (if chosen.includes .ios then ["- Xcode 15+"] else []) ++
    (if chosen.includes .android then ["- Android Studio"] else [])

/-- The entry of a platform in the drawing of the project. -/
def treeEntry : Platform → String
  | .ios => "ios/               # iOS project"
  | .android => "android/           # Android project"
  | .web => "web/               # Web project"

/-- The entries of the platforms, the last one with a corner. -/
def treeLines : List Platform → Lines
  | [] => []
  | [p] => ["│   └── " ++ treeEntry p]
  | p :: rest => ("│   ├── " ++ treeEntry p) :: treeLines rest

/-- The readme of a new project. -/
def readme (name : String) (chosen : Selection) (packageManager : String) : String :=
  Lines.joined <|
    [s!"# {name}",
      "",
      "Cuppa cross-platform application",
      "",
      "## Platforms",
      ""] ++
    chosen.names.map (fun p => "- " ++ Text.upper p) ++
    ["",
      "## Getting Started",
      "",
      "### Prerequisites",
      ""] ++
    prerequisites chosen packageManager ++
    ["",
      "### Development",
      "",
      "```bash",
      "# Generate models from specs",
      "cuppa generate model User --from cuppa-specs/models/User.schema.json",
      "",
      "# Generate API client",
      "cuppa generate api-client --from cuppa-specs/api/v1/openapi.yaml",
      "",
      "# Generate the theme from design tokens",
      "cuppa generate theme --from cuppa-specs/design/tokens.json",
      "```",
      "",
      "## Project Structure",
      "",
      "```",
      s!"{name}/",
      "├── cuppa.config.json       # Cuppa configuration",
      "├── cuppa-specs/            # Specifications",
      "│   ├── models/            # Data models (JSON Schema)",
      "│   ├── api/               # API specs (OpenAPI)",
      "│   └── design/            # Design tokens",
      "├── platforms/"] ++
    treeLines chosen.platforms ++
    ["```",
      "",
      "## License",
      "",
      "MIT",
      ""]

end SpecForge.Project
