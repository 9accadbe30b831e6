import SpecForge.Proofs.Plugin.Wiring
import SpecForge.Proofs.Shape.Members

/-!
# Conformance of managers and providers

With providers, the protocol, the manager and the providers are written for the same methods: what
the protocol requires is what each class has, and the manager calls the provider as the protocol
requires it. Without providers there is no protocol, and nothing of one is left in the other files.

Lines are printed so that this holds. A description with a line break may break the line of its
comment, and then the text of a file can declare a protocol that no line was printed for.
-/

namespace SpecForge.Plugin

open Model.Reader Api.Reader Text Lines Swift

/-! ### With providers -/

/-- A function of the manager has the signature of a method, and calls the provider as a function
with the effects in this signature is to be called, each argument under the name of its parameter.
-/
structure Forwards (m : PluginMethod) (function : String × Lines) : Prop where
  signature : Reader.signature? function.1 = some (signature m)
  effects : Reader.effects? m.name (typedParameters m) (Swift.signature m) = some (effectsOf m)
  call : Reader.call? m.name (m.parameters.map (·.name)) function.2 = some (effectsOf m).call

/-- The files of a protocol with its manager and its providers agree. The manager has one function
more than the protocol requires, by which a provider is registered. -/
structure Conforms (p : Plugin) (name : String) : Prop where
  protocol : (s!"{name}.swift", protocolFile p name) ∈ texts p
  manager : (s!"{p.managerName}.swift", managerFile p) ∈ texts p
  provider : ∀ v ∈ p.providers, (s!"{v.name}.swift", providerFile p v) ∈ texts p
  requires : Reader.requirements (protocolFile p name) = p.methods.map signature
  forwards : ∃ register functions, Reader.functions (managerFile p) = register :: functions ∧
    begins s!"    public func register(_ provider: {name}, " register.1 = true ∧
    List.Forall₂ Forwards p.methods functions
  provides : ∀ v ∈ p.providers,
    (Reader.functions (providerFile p v)).map (fun f => Reader.signature? f.1) =
      p.methods.map fun m => some (signature m)

theorem forwards_forwarding (m : PluginMethod) :
    Forwards m (methodHead m, Lines.indent (forwarding m) 1) :=
  ⟨signature?_methodHead m, effects?_signature m, call?_forwarding m⟩

theorem conforms_of_providers {p : Plugin} {name : String} (h : p.protocolName = some name)
    (hproviders : p.providers ≠ []) : Conforms p name := by
  have hempty : p.providers.isEmpty = false := by
    rwa [List.isEmpty_eq_false_iff]
  obtain ⟨register, hregister, hfunctions⟩ := functions_managerFile_of_some p h
  constructor
  · simp [texts, h, hempty]
  · simp [texts]
  · intro v hv
    simp only [texts, List.mem_append, List.mem_map]
    exact .inl (.inr ⟨v, hv, rfl⟩)
  · exact requirements_protocolFile p
  · refine ⟨register, _, hfunctions, hregister, ?_⟩
    rw [List.forall₂_map_right_iff, List.forall₂_same]
    exact fun m _ => forwards_forwarding m
  · intro v _
    rw [functions_providerFile, List.map_map]
    exact List.map_congr_left fun m _ => signature?_methodHead m

/-! ### Without providers -/

/-- Nothing of a protocol is in the files: no file declares one, and no provider is stored, taken as
an argument, kept, registered or shown. -/
structure Unwired (p : Plugin) : Prop where
  protocol : p.protocolName = none
  files : (texts p).map Prod.fst =
    [s!"{p.name}.swift", s!"{p.name}Configuration.swift", s!"{p.managerName}.swift"] ++
      p.models.map (fun m => s!"{m.name}.swift") ++ ["README.md"]
  declares : ∀ file ∈ texts p, file.1 ≠ "README.md" → Without "public protocol " file.2
  stores : Reader.properties (configurationFile p) =
    p.configuration.map fun prop => s!"    public let {prop.name}: {pluginType prop.type}"
  takes : initializers? (configurationFile p) = some [{
    parameters := p.configuration.map configParameter
    assignments := p.configuration.map fun prop => s!"        self.{prop.name} = {prop.name}" }]
  keeps : Reader.state (managerFile p) = [s!"    private var {debugFlag} = false"]
  functions : Reader.functions (managerFile p) =
    p.methods.map fun m => (methodHead m, Lines.indent (stub m) 1)
  registers : Reader.registrations (pluginFile p) = []
  shows : Reader.moved (readme p) = [p.description].filter (begins "    ") ++
    if p.hasDebugFlag then [s!"    {debugFlag}: true"] else []

theorem unwired_of_providers {p : Plugin} {name : String} (hname : p.IsNamed name)
    (hproviders : p.providers = []) : Unwired p := by
  have hprotocol : p.protocolName = none := by
    rw [hname.protocol, hproviders]
    rfl
  have hnone : ∀ lines, withProtocol p lines = [] := by
    intro lines
    rw [withProtocol, hprotocol]
  have htexts : texts p = [(s!"{p.name}.swift", pluginFile p),
      (s!"{p.name}Configuration.swift", configurationFile p),
      (s!"{p.managerName}.swift", managerFile p)] ++
        p.models.map (fun m => (s!"{m.name}.swift", modelFile m)) ++ [("README.md", readme p)] := by
    rw [texts, hprotocol, hproviders]
    simp
  constructor
  · exact hprotocol
  · rw [htexts]
    simp [Function.comp_def]
  · intro file hfile hreadme
    rw [htexts] at hfile
    simp only [List.mem_append, List.mem_cons, List.not_mem_nil, or_false, List.mem_map] at hfile
    rcases hfile with ((rfl | rfl | rfl) | ⟨m, _, rfl⟩) | rfl
    · exact without_protocol_pluginFile p
    · exact without_protocol_configurationFile p
    · exact without_protocol_managerFile p
    · exact without_protocol_modelFile m
    · exact absurd rfl hreadme
  · rw [properties_configurationFile, hnone, List.append_nil]
  · rw [initializers?_configurationFile, configurationParameters, assignedNames, hnone, hnone,
      List.nil_append, List.nil_append, List.map_map]
    rfl
  · rw [state_managerFile, hnone, List.nil_append]
  · exact functions_managerFile_of_none p hprotocol
  · rw [registrations_pluginFile p hname, hnone]
  · rw [moved_readme, exampleArguments, hnone, List.nil_append]
    split <;> rfl

/-! ### The texts -/

theorem ne_nil_of_mem_texts {p : Plugin} {file : String × Lines} (h : file ∈ texts p) :
    file.2 ≠ [] := by
  simp only [texts, List.mem_append, List.mem_cons, List.not_mem_nil, or_false, List.mem_map] at h
  rcases h with ((((rfl | rfl | rfl) | h) | ⟨m, _, rfl⟩) | ⟨v, _, rfl⟩) | rfl
  · simp [pluginFile, Swift.header]
  · simp [configurationFile, Swift.header]
  · simp [managerFile, Swift.header]
  · split at h
    · split at h
      · exact absurd h List.not_mem_nil
      · rw [List.mem_singleton.1 h]
        simp [protocolFile, Swift.header]
    · exact absurd h List.not_mem_nil
  · simp [modelFile, Swift.header]
  · simp [providerFile, Swift.header]
  · simp [readme]

/-- The manager and each provider of a plugin have the methods that the protocol requires, and the
manager calls them as they have to be called; a plugin without providers has no protocol. So it is
in the lines that are printed, and so it is in the text of a file if none of its lines is broken. -/
theorem conformance_of_ofSpec {doc : Value} {p : Plugin} (h : ofSpec doc = .ok p) :
    List.Forall₂ (fun v m => readMethod v = .ok m) (Shape.declared "methods" doc) p.methods ∧
      (Shape.declared "providers" doc).length = p.providers.length ∧
      (∀ file ∈ texts p, (∀ line ∈ file.2, '\n' ∉ line.toList) →
        Text.split '\n' file.2.joined = file.2) ∧
      (Shape.declared "providers" doc ≠ [] → ∃ name, p.protocolName = some name ∧ Conforms p name) ∧
      (Shape.declared "providers" doc = [] → Unwired p) := by
  obtain ⟨ms, name, hms, hname, hmethods, hproviders⟩ := exists_of_ofSpec h
  have hproviders := Shape.forall₂_declared hms hproviders
  refine ⟨Shape.forall₂_declared hms hmethods, hproviders.length_eq, fun file hfile hbreaks => ?_,
    fun hne => ?_, fun hnil => ?_⟩
  · exact split_joined_of_not_mem (ne_nil_of_mem_texts hfile) hbreaks
  · have hne' : p.providers ≠ [] := by
      rintro hnil
      rw [hnil, List.forall₂_nil_right_iff] at hproviders
      exact hne hproviders
    have hprotocol : p.protocolName = some (name ++ "Provider") := by
      rw [hname.protocol, if_neg (by simpa using hne')]
    exact ⟨_, hprotocol, conforms_of_providers hprotocol hne'⟩
  · rw [hnil, List.forall₂_nil_left_iff] at hproviders
    exact unwired_of_providers hname hproviders

/-- The template with a provider conforms, and the one for a service has none. -/
theorem conformance_of_template :
    (∃ p, ofSpec (templateSpec "Analytics" .provider) = .ok p ∧ p.methods.length = 2 ∧
      ∃ name, p.protocolName = some name ∧ Conforms p name) ∧
    (∃ p, ofSpec (templateSpec "Analytics" .service) = .ok p ∧ Unwired p) := by
  constructor
  · have hp : ∃ p, ofSpec (templateSpec "Analytics" .provider) = .ok p ∧ p.methods.length = 2 :=
      ⟨_, rfl, rfl⟩
    obtain ⟨p, hp, hlength⟩ := hp
    exact ⟨p, hp, hlength, (conformance_of_ofSpec hp).2.2.2.1 (by decide)⟩
  · have hp : ∃ p, ofSpec (templateSpec "Analytics" .service) = .ok p := ⟨_, rfl⟩
    obtain ⟨p, hp⟩ := hp
    exact ⟨p, hp, (conformance_of_ofSpec hp).2.2.2.2 (by decide)⟩

/-- A description that goes on, behind a line break, with a protocol. -/
def brokenDescription : String := "events. Example:\npublic protocol AnalyticsProvider \x7b\x7d"

/-- A specification without providers, whose description has a line break. -/
def brokenSpec : Value :=
  .record [("name", .str "Analytics"), ("description", .str brokenDescription)]

/-- The manager of this plugin declares a protocol. -/
theorem not_unwired_brokenSpec :
    ∃ p sources, ofSpec brokenSpec = .ok p ∧ Shape.declared "providers" brokenSpec = [] ∧
      p.sourceFiles = .ok sources ∧ ∃ file ∈ sources, file.name = "AnalyticsManager.swift" ∧
        ¬ Without "public protocol " (Text.split '\n' file.text) := by
  have hp : ∃ p, ofSpec brokenSpec = .ok p := ⟨_, rfl⟩
  obtain ⟨p, hp⟩ := hp
  have hdescription : p.description = brokenDescription := by
    cases hp
    rfl
  have hcomplete : ∃ sources, p.sourceFiles = .ok sources ∧ p.Complete sources := by
    refine (sourceFiles_complete_iff hp ?_ ?_).2 ⟨?_, ?_, ?_, ?_⟩ <;> cases hp <;> decide
  have hname : p.managerName = "AnalyticsManager" := by
    cases hp
    rfl
  have hcomment : ["/// Manager for coordinating " ++ brokenDescription].Sublist
      (managerFile p) := by
    rw [List.singleton_sublist, managerFile, hdescription]
    simp [toString]
  have hcount : (["/// Manager for coordinating " ++ brokenDescription].flatMap
      (Text.split '\n')).countP (begins "public protocol ") = 1 := by
    decide +kernel
  have hprotocol : ∃ line ∈ Text.split '\n' (managerFile p).joined,
      begins "public protocol " line = true := by
    rw [← List.countP_pos_iff]
    have hle := countP_flatMap_split_le hcomment (by simp [managerFile, Swift.header])
      (begins "public protocol ")
    omega
  obtain ⟨line, hl, hline⟩ := hprotocol
  obtain ⟨sources, hsources, hcomplete⟩ := hcomplete
  refine ⟨p, sources, hp, by decide, hsources, sourceOf (p.managerName ++ ".swift", managerFile p),
    hcomplete.manager, ?_, fun hwithout => ?_⟩
  · dsimp only [sourceOf]
    rw [hname]
    decide
  · dsimp only [sourceOf] at hwithout
    have hnone := hwithout line hl
    rw [hline] at hnone
    cases hnone

end SpecForge.Plugin
