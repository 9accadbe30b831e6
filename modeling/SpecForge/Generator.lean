import SpecForge.Api.Kotlin
import SpecForge.Api.Swift
import SpecForge.Api.TypeScript
import SpecForge.Component.Swift
import SpecForge.Model.Kotlin
import SpecForge.Model.Swift
import SpecForge.Model.TypeScript
import SpecForge.Plugin.Swift
import SpecForge.Registry
import SpecForge.Theme.Kotlin
import SpecForge.Theme.Swift
import SpecForge.Theme.TypeScript

/-!
# Generators

The generators there are, one for a kind of specification on a platform, and the files they write.
-/

namespace SpecForge

/-- The kinds of specifications. -/
inductive SpecKind where
  | model
  | apiClient
  | theme
  | component
  | plugin
deriving DecidableEq

namespace SpecKind

/-- All kinds. -/
def all : List SpecKind := [.model, .apiClient, .theme, .component, .plugin]

/-- The name of a kind on the command line. -/
def name : SpecKind → String
  | .model => "model"
  | .apiClient => "api-client"
  | .theme => "theme"
  | .component => "component"
  | .plugin => "plugin"

/-- The kind with the given name. -/
def ofName? (s : String) : Option SpecKind := all.find? (·.name == s)

/-- The platforms that code of this kind is generated for. -/
def platforms : SpecKind → List Platform
  | .component => [.ios]
  | .plugin => [.ios]
  | _ => Platform.all

end SpecKind

/-- What generates code of a kind for a platform. -/
structure Generator where
  kind : SpecKind
  platform : Platform
deriving DecidableEq

namespace Generator

/-- All generators there are. -/
def all : List Generator := SpecKind.all.flatMap fun kind => kind.platforms.map (Generator.mk kind)

/-- The registry of all generators. -/
def builtin : Registry Generator :=
  ⟨all.map fun g => ((g.kind.name, g.platform.name), g)⟩

end Generator

/-- A file with its text. -/
structure SourceFile where
  name : String
  text : String
deriving DecidableEq

/-- The ending of the names of source files. -/
def Platform.fileExtension : Platform → String
  | .ios => ".swift"
  | .android => ".kt"
  | .web => ".ts"

/-- A file, if the numbers in it can be spelled. -/
def SourceFile.ofLines (isSpellable : Bool) (name : String) (lines : Lines) : Outcome SourceFile :=
  if isSpellable then .ok ⟨name, lines.joined⟩ else .error .unspellable

theorem SourceFile.eq_of_ofLines {isSpellable : Bool} {name : String} {lines : Lines}
    {file : SourceFile} (h : ofLines isSpellable name lines = .ok file) :
    file = ⟨name, lines.joined⟩ := by
  rw [ofLines] at h
  split at h
  · cases h
    rfl
  · cases h

/-- The code of a model. -/
def Model.code (p : Platform) (m : Model) (source : String) : Lines :=
  match p with
  | .ios => Model.Swift.file m source
  | .android => Model.Kotlin.file m source
  | .web => Model.TypeScript.file m source

/-- The file of a model. Defaults are not written for the web. -/
def Model.sourceFile (p : Platform) (m : Model) (source : String) : Outcome SourceFile :=
  SourceFile.ofLines (p == .web || m.isSpellable) (m.name ++ p.fileExtension) (m.code p source)

/-- The code of the client of an interface. -/
def Api.code (p : Platform) (api : Api) (source : String) : Lines :=
  match p with
  | .ios => Api.Swift.file api source
  | .android => Api.Kotlin.file api source
  | .web => Api.TypeScript.file api source

/-- The file of the client of an interface. Defaults are not written for the web. -/
def Api.sourceFile (p : Platform) (api : Api) (source : String) : Outcome SourceFile :=
  let isSpellable := p == .web || api.models.all Model.isSpellable
  SourceFile.ofLines isSpellable (api.clientName ++ p.fileExtension) (api.code p source)

/-- The name of the file of a theme. -/
def Theme.fileName (p : Platform) (theme : Theme) : String :=
  match p with
  | .web => Theme.TypeScript.constantName theme ++ p.fileExtension
  | _ => theme.name ++ p.fileExtension

/-- The file of a theme, if all its tokens can be written. -/
def Theme.sourceFile (p : Platform) (theme : Theme) (source : String) : Outcome SourceFile := do
  let lines ← match p with
    | .ios => Theme.Swift.file theme source
    | .android => Theme.Kotlin.file theme source
    | .web => Theme.TypeScript.file theme source
  return ⟨theme.fileName p, lines.joined⟩

/-- The file of a component. -/
def Component.sourceFile (c : Component) (source : String) : Outcome SourceFile :=
  SourceFile.ofLines (Component.Swift.isSpellable c) (c.name ++ Platform.ios.fileExtension)
    (Component.Swift.file c source)

/-- The files of a plugin, in the order in which they are written. -/
def Plugin.sourceFiles (p : Plugin) : Outcome (List SourceFile) :=
  let isSpellable := p.configuration.all fun prop => hasSpellableLiteral prop.default
  (Plugin.Swift.files p).mapM fun file => SourceFile.ofLines isSpellable file.1 file.2

end SpecForge
