import SpecForge.Proofs.Plugin.Files
import SpecForge.Proofs.Plugin.Methods

/-!
# The wiring of a provider

Besides the methods, the name of the protocol stands in five places: the configuration stores a
provider and takes it as an argument, the manager keeps one, the plugin registers it, and the readme
shows how it is given. All of them are there exactly if the plugin has a protocol.
-/

namespace SpecForge.Plugin.Swift

open Model.Reader Api.Reader Text Lines

/-! ### Initializers -/

section Initializers

variable {params names : Lines}

theorem initializer_eq : initializer params (names.map assignment) =
    "    public init(" ::
      ((⟨params, Lines.indent (names.map assignment) 1⟩ : Initializer).lines ++ ["    \x7d"]) :=
  indent_initializer params (names.map assignment)

theorem isIndented_assignments :
    (⟨params, Lines.indent (names.map assignment) 1⟩ : Initializer).IsIndented := by
  refine isIndented_indent params fun line hl => ?_
  obtain ⟨name, _, rfl⟩ := List.mem_map.1 hl
  exact ⟨s!"self.{name} = {name}", by simp [assignment, toString, ← String.toList_inj]⟩

theorem indent_assignments : Lines.indent (names.map assignment) 1 =
    names.map fun name => s!"        self.{name} = {name}" := by
  rw [Lines.indent_eq_map, List.map_map]
  · refine List.map_congr_left fun name _ => ?_
    simp [assignment, toString, ← String.toList_inj]
  · intro line hl
    obtain ⟨name, _, rfl⟩ := List.mem_map.1 hl
    simp [assignment, toString, ← String.toList_inj]

/-- An initializer has nothing on its level but what opens and closes it. -/
theorem without_initializer {keyword : String} (hopen : begins keyword "    public init(" = false)
    (hmiddle : begins keyword "    ) \x7b" = false) (hclose : begins keyword "    \x7d" = false)
    (hinner : ∀ rest, begins keyword ("        " ++ rest) = false) :
    Without keyword (initializer params (names.map assignment)) := by
  rw [initializer_eq, without_cons, without_append, without_cons]
  refine ⟨hopen, fun line hl => ?_, hclose, without_nil⟩
  rcases isIndented_assignments.of_mem_lines hl with rfl | ⟨rest, rfl⟩
  · exact hmiddle
  · exact hinner rest

end Initializers

section Wiring

variable (p : Plugin)

/-! ### The configuration -/

theorem properties_storedProperty (name type description : String) :
    Reader.properties (storedProperty name type description) =
      [s!"    public let {name}: {type}"] := by
  have hdoc : Without "    public let "
      (Lines.indent (Lines.docComment .slashes (some description)) 1) :=
    without_indent_docComment _ fun _ => by simp [begins, after?]
  have hline : begins "    public let " s!"    public let {name}: {type}" = true := by
    simp [begins, after?, toString]
  rw [Reader.properties, storedProperty, List.filter_append, filter_begins_eq_nil hdoc,
    List.nil_append, List.filter_cons_of_pos hline]
  rfl

/-- What stands in the configuration before its stored properties. -/
def configurationOpening : Lines :=
  header (p.name ++ "Configuration") ++
    ["import Foundation",
      "import CuppaCore",
      "",
      s!"/// Configuration for {p.name}.",
      s!"public struct {p.name}Configuration: PluginConfiguration \x7b"]

/-- The settings by their names. -/
def settings : Lines :=
  ["    /// Required settings dictionary for PluginConfiguration conformance",
    "    public var settings: [String: Any] \x7b"] ++
  (if p.configuration.isEmpty then ["        [:]"]
   else
    ["        ["] ++
      p.configuration.map (fun prop => s!"            {quoted prop.name}: {prop.name},") ++
      ["        ]"]) ++
  ["    \x7d", ""]

/-- The stored provider. -/
def storedProvider : Lines := withProtocol p fun name =>
  [s!"    /// {name} implementation", s!"    public let provider: {name}", ""]

/-- What the initializer of the configuration takes. -/
def configurationParameters : Lines :=
  withProtocol p (fun name => ["provider: " ++ name]) ++ p.configuration.map configParameter

/-- The properties that the initializer of the configuration assigns. -/
def assignedNames : Lines := withProtocol p (fun _ => ["provider"]) ++ p.configuration.map (·.name)

theorem configurationFile_eq : configurationFile p =
    configurationOpening p ++ (p.configuration.flatMap fun prop =>
      storedProperty prop.name (pluginType prop.type) prop.description) ++ storedProvider p ++
        settings p ++ initializer (configurationParameters p) ((assignedNames p).map assignment) ++
          ["\x7d", ""] := by
  have hnames : withProtocol p (fun _ => [assignment "provider"]) =
      (withProtocol p fun _ => ["provider"]).map assignment := by
    rw [withProtocol, withProtocol]
    split <;> rfl
  rw [configurationFile, assignedNames, List.map_append, ← hnames, List.map_map]
  simp only [settings, configurationOpening, List.append_assoc]
  rfl

theorem without_configurationOpening : Without "    public " (configurationOpening p) := by
  simp [configurationOpening, header, begins, after?, toString]

/-- The words that stored properties, initializers and protocols begin with. -/
def keywords : List String := ["    public let ", "    public init(", "public protocol "]

theorem without_settings {keyword : String} (h : keyword ∈ keywords) :
    Without keyword (settings p) := by
  simp only [keywords, List.mem_cons, List.not_mem_nil, or_false] at h
  have hentry : ∀ prop : ConfigProperty,
      begins keyword s!"            {quoted prop.name}: {prop.name}," = false := by
    intro prop
    rcases h with rfl | rfl | rfl <;> simp [begins, after?, toString]
  have hentries := without_map hentry p.configuration
  rw [settings]
  split
  · rcases h with rfl | rfl | rfl <;> simp [begins, after?]
  · simp only [without_append, hentries, and_true]
    rcases h with rfl | rfl | rfl <;> simp [begins, after?]

/-- The configuration stores the settings, and a provider if there is a protocol. -/
theorem properties_configurationFile : Reader.properties (configurationFile p) =
    (p.configuration.map fun prop => s!"    public let {prop.name}: {pluginType prop.type}") ++
      withProtocol p fun name => [s!"    public let provider: {name}"] := by
  have hkeyword : "    public let " = "    public " ++ "let " := by decide
  have hopening : Without "    public let " (configurationOpening p) := by
    rw [hkeyword]
    exact (without_configurationOpening p).longer "let "
  have hsettings : Without "    public let " (settings p) := without_settings p (by decide)
  have hinitializer : Without "    public let "
      (initializer (configurationParameters p) ((assignedNames p).map assignment)) :=
    without_initializer (by decide) (by decide) (by decide) fun _ => by simp [begins, after?]
  have hend : Without "    public let " ["\x7d", ""] := by
    simp [begins, after?]
  have hprovider : (storedProvider p).filter (begins "    public let ") =
      withProtocol p fun name => [s!"    public let provider: {name}"] := by
    rw [storedProvider, withProtocol, withProtocol]
    split
    · simp [begins, after?, toString]
    · rfl
  have hstored : (p.configuration.flatMap fun prop =>
      storedProperty prop.name (pluginType prop.type) prop.description).filter
        (begins "    public let ") =
      p.configuration.map fun prop => s!"    public let {prop.name}: {pluginType prop.type}" := by
    rw [List.filter_flatMap, ← List.flatMap_pure_eq_map]
    exact congrArg (List.flatMap · p.configuration) (funext fun prop =>
      properties_storedProperty prop.name (pluginType prop.type) prop.description)
  rw [Reader.properties, configurationFile_eq]
  simp only [List.filter_append, filter_begins_eq_nil hopening, hstored, hprovider,
    filter_begins_eq_nil hsettings, filter_begins_eq_nil hinitializer, filter_begins_eq_nil hend,
    List.nil_append, List.append_nil]

/-- The configuration takes and assigns the same. -/
theorem initializers?_configurationFile : initializers? (configurationFile p) =
    some [{
      parameters := configurationParameters p
      assignments := (assignedNames p).map fun name => s!"        self.{name} = {name}" }] := by
  have hkeyword : "    public init(" = "    public " ++ "init(" := by decide
  have hopening : Without "    public init(" (configurationOpening p) := by
    rw [hkeyword]
    exact (without_configurationOpening p).longer "init("
  have hsettings : Without "    public init(" (settings p) := without_settings p (by decide)
  have hline : ∀ name type : String,
      begins "    public init(" (s!"    public let {name}: {type}") = false := by
    intro name type
    simp [begins, after?, toString]
  have hstored : Without "    public init(" (p.configuration.flatMap fun prop =>
      storedProperty prop.name (pluginType prop.type) prop.description) := by
    refine without_flatMap fun prop _ => ?_
    rw [storedProperty, without_append, without_cons, without_cons]
    exact ⟨without_indent_docComment _ fun _ => by simp [begins, after?], hline _ _, by decide,
      without_nil⟩
  have hprovider : Without "    public init(" (storedProvider p) :=
    without_withProtocol p fun name => by simp [begins, after?, toString]
  have hend : Without "    public init(" ["\x7d", ""] := by
    simp [begins, after?]
  have hfront := without_append.2
    ⟨without_append.2 ⟨without_append.2 ⟨hopening, hstored⟩, hprovider⟩, hsettings⟩
  rw [configurationFile_eq, initializer_eq, List.append_assoc,
    initializers?_cons hfront isIndented_assignments, initializers?_eq_nil hend,
    indent_assignments]
  rfl

/-! ### The manager -/

/-- The manager keeps a provider if there is a protocol. -/
theorem state_managerFile : Reader.state (managerFile p) =
    withProtocol p (fun name => [s!"    private var provider: {name}?"]) ++
      [s!"    private var {debugFlag} = false"] := by
  have hopening : (managerOpening p).filter (begins "    private var ") =
      withProtocol p (fun name => [s!"    private var provider: {name}?"]) ++
        [s!"    private var {debugFlag} = false"] := by
    rw [managerOpening, withProtocol]
    split <;> simp [header, begins, after?, toString]
  have hregistering : Without "    private var " (withProtocol p registering) :=
    without_withProtocol p fun name => by simp [registering, begins, after?, toString]
  have hmethods : Without "    private var " (p.methods.flatMap fun m =>
      Lines.indent (publicMethod m (managerBody p m)) 1 ++ [""]) := by
    refine without_flatMap fun m _ => ?_
    rw [indent_publicMethod]
    simp only [without_append, without_cons, without_nil, and_true]
    refine ⟨⟨without_indent_docComment _ fun _ => by simp [begins, after?], ?_, ?_, ?_⟩, ?_⟩
    · simp [methodHead, begins, after?]
    · intro line hl
      rcases (isInner_managerBody p m).of_mem_indent hl with rfl | ⟨rest, rfl⟩
      · decide
      · simp [begins, after?]
    · decide
    · decide
  have hend : Without "    private var " ["\x7d", ""] := by
    simp [begins, after?]
  rw [Reader.state, managerFile_eq]
  simp only [List.filter_append, hopening, filter_begins_eq_nil hregistering,
    filter_begins_eq_nil hmethods, filter_begins_eq_nil hend, List.append_nil]

/-! ### The plugin -/

/-- A line by which nothing is registered and no protocol is declared. -/
def IsQuiet (line : String) : Prop :=
  (begins "        " line = true → Reader.isRegistration line = false) ∧
    begins "public protocol " line = false

theorem registrations_eq_nil {lines : Lines} (h : ∀ line ∈ lines, IsQuiet line) :
    Reader.registrations lines = [] := by
  rw [Reader.registrations, List.filter_eq_nil_iff]
  intro line hl
  obtain ⟨hmem, hbegins⟩ := List.mem_filter.1 hl
  rw [(h line hmem).1 hbegins]
  decide

theorem registrations_append (front rest : Lines) : Reader.registrations (front ++ rest) =
    Reader.registrations front ++ Reader.registrations rest := by
  rw [Reader.registrations, List.filter_append, List.filter_append]
  rfl

theorem isQuiet_debugMessages : ∀ line ∈ debugMessages p, IsQuiet line := by
  intro line hl
  rw [debugMessages] at hl
  split at hl
  · simp only [List.mem_append, List.mem_cons, List.mem_map, List.not_mem_nil, or_false] at hl
    rcases hl with ((rfl | rfl) | ⟨prop, _, rfl⟩) | rfl | rfl <;>
      simp [IsQuiet, Reader.isRegistration, begins, before?, after?, toString]
  · exact absurd hl List.not_mem_nil

/-- Around the registration the plugin is quiet. -/
theorem pluginFile_eq : ∃ front back, pluginFile p = front ++ registration p ++ back ∧
    ∀ line ∈ front ++ back, IsQuiet line := by
  rw [pluginFile, List.append_assoc _ (debugMessages p)]
  refine ⟨_, _, rfl, List.forall_mem_append.2 ⟨?_,
    List.forall_mem_append.2 ⟨isQuiet_debugMessages p, ?_⟩⟩⟩
  · simp [header, IsQuiet, Reader.isRegistration, begins, before?, after?, toString]
  · simp [IsQuiet, Reader.isRegistration, begins, before?, after?, toString]

theorem registrations_registration {name : String} (h : p.IsNamed name) :
    Reader.registrations (registration p) =
      withProtocol p fun _ => [s!"        {p.managerName}.shared.register("] := by
  rw [Reader.registrations, registration, withProtocol, withProtocol, h.manager]
  split
  · split <;>
      simp [Reader.isRegistration, begins, before?, after?, toString, debugFlag]
  · rfl

/-- The plugin registers the provider if there is a protocol. -/
theorem registrations_pluginFile {name : String} (h : p.IsNamed name) :
    Reader.registrations (pluginFile p) =
      withProtocol p fun _ => [s!"        {p.managerName}.shared.register("] := by
  obtain ⟨front, back, hlines, hquiet⟩ := pluginFile_eq p
  rw [List.forall_mem_append] at hquiet
  rw [hlines, registrations_append, registrations_append, registrations_eq_nil hquiet.1,
    registrations_eq_nil hquiet.2, registrations_registration p h, List.nil_append,
    List.append_nil]

/-! ### The readme -/

/-- The example in the readme gives a provider if there is a protocol. -/
theorem moved_readme : Reader.moved (readme p) =
    [p.description].filter (begins "    ") ++ Lines.commaSeparated (exampleArguments p) := by
  have harguments : (Lines.commaSeparated (exampleArguments p)).filter (begins "    ") =
      Lines.commaSeparated (exampleArguments p) := by
    rw [exampleArguments, withProtocol]
    split <;> split <;> simp [Lines.commaSeparated, begins, after?, toString]
  rw [Reader.moved, readme, List.filter_append, List.filter_append, harguments]
  cases hd : after? [' ', ' ', ' ', ' '] p.description.toList <;>
    simp [begins, after?, toString, hd]

/-! ### Declared protocols -/

theorem without_protocol_indent (lines : Lines) :
    Without "public protocol " (Lines.indent lines 1) := by
  intro line hl
  rcases mem_indent hl with rfl | ⟨other, _, rfl⟩
  · decide
  · simp [begins, after?]

theorem without_protocol_docComment (text : String) :
    Without "public protocol " (Lines.docComment .slashes (some text)) := by
  intro line hl
  obtain ⟨rest, rfl⟩ := mem_docComment hl
  simp [CommentStyle.slashes, CommentStyle.opening, begins, after?]

theorem without_protocol_storedProperty (name type description : String) :
    Without "public protocol " (storedProperty name type description) := by
  rw [storedProperty, without_append]
  refine ⟨without_protocol_indent _, ?_⟩
  simp [begins, after?, toString]

theorem without_protocol_initializer (params names : Lines) :
    Without "public protocol " (initializer params (names.map assignment)) :=
  without_initializer (by decide) (by decide) (by decide) fun _ => by simp [begins, after?]

theorem without_protocol_modelFile (m : PluginModel) :
    Without "public protocol " (modelFile m) := by
  have hnames : m.properties.map (fun prop => assignment prop.name) =
      (m.properties.map (·.name)).map assignment := by
    rw [List.map_map]
    rfl
  rw [modelFile, hnames]
  simp only [without_append, without_protocol_docComment, without_protocol_initializer, and_true]
  refine ⟨⟨⟨⟨?_, ?_⟩, ?_⟩,
    without_flatMap fun prop _ line hl => without_protocol_storedProperty _ _ _ line hl⟩, ?_⟩
  · simp [header, begins, after?, toString]
  · simp [begins, after?]
  · simp [begins, after?, toString]
  · simp [begins, after?]

theorem without_protocol_managerFile : Without "public protocol " (managerFile p) := by
  have hopening : Without "public protocol " (managerOpening p) := by
    rw [managerOpening, withProtocol]
    split <;> simp [header, begins, after?, toString]
  have hregistering : Without "public protocol " (withProtocol p registering) :=
    without_withProtocol p fun name => by simp [registering, begins, after?, toString]
  simp only [managerFile_eq, without_append, hopening, hregistering, true_and]
  refine ⟨without_flatMap fun m _ => without_append.2 ⟨without_protocol_indent _, ?_⟩, ?_⟩
  · simp [begins, after?]
  · simp [begins, after?]

theorem without_protocol_configurationFile :
    Without "public protocol " (configurationFile p) := by
  have hopening : Without "public protocol " (configurationOpening p) := by
    simp [configurationOpening, header, begins, after?, toString]
  have hprovider : Without "public protocol " (storedProvider p) :=
    without_withProtocol p fun name => by simp [begins, after?, toString]
  have hsettings : Without "public protocol " (settings p) := without_settings p (by decide)
  simp only [configurationFile_eq, without_append, hopening, hprovider, hsettings,
    without_protocol_initializer, and_true, true_and]
  refine ⟨without_flatMap fun prop _ line hl => without_protocol_storedProperty _ _ _ line hl, ?_⟩
  simp [begins, after?]

theorem without_protocol_pluginFile : Without "public protocol " (pluginFile p) := by
  have hregistration : Without "public protocol " (registration p) := by
    refine without_withProtocol p fun name => ?_
    split <;> simp [begins, after?, toString]
  obtain ⟨front, back, hlines, hquiet⟩ := pluginFile_eq p
  rw [List.forall_mem_append] at hquiet
  rw [hlines, without_append, without_append]
  exact ⟨⟨fun line hl => (hquiet.1 line hl).2, hregistration⟩, fun line hl => (hquiet.2 line hl).2⟩

end Wiring

end SpecForge.Plugin.Swift
