import Mathlib.Data.List.Nodup
import SpecForge.Generator
import SpecForge.Plugin.Spec
import SpecForge.Proofs.Outcome

/-!
# The files of a plugin

The files of a plugin are put one after the other under their names, and a name that was there
before loses its text. So all texts are kept if and only if the names differ. They come from four
rules: some are made from the name of the plugin, and those of models and providers are free.
-/

namespace SpecForge.Plugin

namespace Swift

theorem length_put_of_mem {name : String} {text : Lines} {written : List (String × Lines)}
    (h : name ∈ written.map Prod.fst) : (put name text written).length = written.length := by
  induction written with
  | nil => exact absurd h List.not_mem_nil
  | cons file written ih =>
      obtain ⟨other, t⟩ := file
      by_cases ho : other = name
      · simp [put, ho]
      · rw [List.map_cons, List.mem_cons] at h
        have hrest := ih (h.resolve_left (Ne.symm ho))
        simp [put, ho, hrest]

theorem put_of_not_mem {name : String} {text : Lines} {written : List (String × Lines)}
    (h : name ∉ written.map Prod.fst) : put name text written = written ++ [(name, text)] := by
  induction written with
  | nil => rfl
  | cons file written ih =>
      obtain ⟨other, t⟩ := file
      rw [List.map_cons, List.mem_cons, not_or] at h
      rw [put, if_neg (by simpa using Ne.symm h.1), ih h.2, List.cons_append]

/-- The files written so far and further ones put to them. -/
def putAll (written files : List (String × Lines)) : List (String × Lines) :=
  files.foldl (fun written file => put file.1 file.2 written) written

theorem length_putAll_le (written files : List (String × Lines)) :
    (putAll written files).length ≤ written.length + files.length := by
  induction files generalizing written with
  | nil => exact Nat.le_refl _
  | cons file files ih =>
      have hput : (put file.1 file.2 written).length ≤ written.length + 1 := by
        by_cases h : file.1 ∈ written.map Prod.fst
        · rw [length_put_of_mem h]
          exact Nat.le_succ _
        · rw [put_of_not_mem h]
          exact Nat.le_of_eq List.length_append
      have hrest := ih (put file.1 file.2 written)
      rw [putAll, List.foldl_cons, ← putAll, List.length_cons]
      omega

/-- Files with different names are put one behind the other. -/
theorem putAll_eq_append {written files : List (String × Lines)}
    (h : ((written ++ files).map Prod.fst).Nodup) : putAll written files = written ++ files := by
  induction files generalizing written with
  | nil => exact (List.append_nil written).symm
  | cons file files ih =>
      have hnew : file.1 ∉ written.map Prod.fst := by
        rw [List.map_append, List.nodup_append] at h
        exact fun hmem => h.2.2 file.1 hmem file.1 (by simp) rfl
      have hrest : written ++ file :: files = (written ++ [file]) ++ files := by simp
      rw [hrest] at h
      rw [putAll, List.foldl_cons, ← putAll, put_of_not_mem hnew, hrest, ih h]

/-- If no file is lost the names are different. -/
theorem nodup_of_length_putAll {written files : List (String × Lines)}
    (hw : (written.map Prod.fst).Nodup)
    (h : (putAll written files).length = written.length + files.length) :
    ((written ++ files).map Prod.fst).Nodup := by
  induction files generalizing written with
  | nil => rwa [List.append_nil]
  | cons file files ih =>
      rw [putAll, List.foldl_cons, ← putAll, List.length_cons] at h
      by_cases hmem : file.1 ∈ written.map Prod.fst
      · have hle := length_putAll_le (put file.1 file.2 written) files
        rw [length_put_of_mem hmem] at hle
        omega
      · rw [put_of_not_mem hmem] at h
        have hnext : ((written ++ [file]).map Prod.fst).Nodup := by
          rw [List.map_append, List.nodup_append]
          refine ⟨hw, List.nodup_singleton _, ?_⟩
          intro name hname other hother heq
          rw [List.map_singleton, List.mem_singleton] at hother
          rw [heq, hother] at hname
          exact hmem hname
        have hrest := ih hnext (by rw [h, List.length_append, List.length_singleton]; omega)
        rwa [List.append_assoc] at hrest

theorem files_eq_texts {p : Plugin} (h : ((texts p).map Prod.fst).Nodup) : files p = texts p := by
  have hall : putAll [] (texts p) = [] ++ texts p := putAll_eq_append h
  exact hall

theorem nodup_of_length_files {p : Plugin} (h : (files p).length = (texts p).length) :
    ((texts p).map Prod.fst).Nodup := by
  have hnone : (([] : List (String × Lines)).map Prod.fst).Nodup := List.nodup_nil
  have hall : (putAll [] (texts p)).length = 0 + (texts p).length := by
    rw [Nat.zero_add]
    exact h
  have hnodup : (([] ++ texts p).map Prod.fst).Nodup := nodup_of_length_putAll hnone hall
  exact hnodup

end Swift

/-- The names, without their ending, of the files that are made from the name of the plugin. -/
def reservedNames (p : Plugin) : List String :=
  [p.name, p.name ++ "Configuration", p.managerName] ++
    (if p.providers.isEmpty then [] else p.protocolName.toList)

/-- The names of all source files without their ending. -/
def stems (p : Plugin) : List String :=
  p.reservedNames ++ p.models.map (·.name) ++ p.providers.map (·.name)

theorem map_fst_texts (p : Plugin) :
    (Swift.texts p).map Prod.fst = p.stems.map (· ++ ".swift") ++ ["README.md"] := by
  have hconfiguration :
      p.name ++ "Configuration.swift" = p.name ++ "Configuration" ++ ".swift" := by
    rw [String.append_assoc]
    rfl
  cases hn : p.protocolName with
  | none =>
      simp [Swift.texts, stems, reservedNames, hn, hconfiguration, toString, Function.comp_def]
  | some name =>
      by_cases hp : p.providers.isEmpty = true
      · simp [Swift.texts, stems, reservedNames, hn, hp, hconfiguration, toString,
          Function.comp_def]
      · simp [Swift.texts, stems, reservedNames, hn, hp, hconfiguration, toString,
          Function.comp_def]

/-- Models and providers have names that no other file has. -/
structure NamesApart (p : Plugin) : Prop where
  model : ∀ m ∈ p.models, m.name ∉ p.reservedNames
  provider : ∀ v ∈ p.providers, v.name ∉ p.reservedNames
  between : ∀ m ∈ p.models, ∀ v ∈ p.providers, m.name ≠ v.name

/-- The names that a plugin has from the name in its specification. -/
structure IsNamed (p : Plugin) (name : String) : Prop where
  plugin : p.name = name ++ "Plugin"
  manager : p.managerName = name ++ "Manager"
  protocol : p.protocolName = if p.providers.isEmpty then none else some (name ++ "Provider")

/-- What an accepted specification was read as: a name, methods and providers. -/
theorem exists_of_ofSpec {doc : Value} {p : Plugin} (h : ofSpec doc = .ok p) :
    ∃ ms name, Shape.record "PluginSpec" doc = .ok ms ∧ p.IsNamed name ∧
      Shape.given "methods" "methods" [] (Shape.list readMethod) ms = .ok p.methods ∧
      Shape.given "providers" "providers" [] (Shape.list (readProvider (name ++ "Provider"))) ms =
        .ok p.providers := by
  rw [ofSpec] at h
  split at h
  · rename_i q hq
    cases h
    rw [read] at hq
    obtain ⟨ms, hms, hq⟩ := bind_eq_ok_iff.1 hq
    obtain ⟨name, _, hq⟩ := bind_eq_ok_iff.1 hq
    obtain ⟨identifier, _, hq⟩ := bind_eq_ok_iff.1 hq
    obtain ⟨version, _, hq⟩ := bind_eq_ok_iff.1 hq
    obtain ⟨description, _, hq⟩ := bind_eq_ok_iff.1 hq
    obtain ⟨author, _, hq⟩ := bind_eq_ok_iff.1 hq
    obtain ⟨dependencies, _, hq⟩ := bind_eq_ok_iff.1 hq
    obtain ⟨configuration, _, hq⟩ := bind_eq_ok_iff.1 hq
    obtain ⟨methods, hmethods, hq⟩ := bind_eq_ok_iff.1 hq
    obtain ⟨models, _, hq⟩ := bind_eq_ok_iff.1 hq
    obtain ⟨providers, hproviders, hq⟩ := bind_eq_ok_iff.1 hq
    cases hq
    exact ⟨ms, name, hms, ⟨rfl, rfl, rfl⟩, hmethods, hproviders⟩
  · cases h

theorem isNamed_of_ofSpec {doc : Value} {p : Plugin} (h : ofSpec doc = .ok p) :
    ∃ name, p.IsNamed name := by
  obtain ⟨_, name, _, hname, _⟩ := exists_of_ofSpec h
  exact ⟨name, hname⟩

theorem nodup_reservedNames {p : Plugin} {name : String} (h : p.IsNamed name) :
    p.reservedNames.Nodup := by
  rw [reservedNames, h.plugin, h.manager, h.protocol]
  by_cases hp : p.providers.isEmpty = true
  · simp [hp, String.append_assoc]
  · simp [hp, String.append_assoc]

theorem nodup_stems_iff {p : Plugin} {name : String} (h : p.IsNamed name)
    (hm : (p.models.map (·.name)).Nodup) (hv : (p.providers.map (·.name)).Nodup) :
    p.stems.Nodup ↔ p.NamesApart := by
  rw [stems, List.nodup_append, List.nodup_append]
  constructor
  · rintro ⟨⟨_, _, hmodel⟩, _, hprovider⟩
    constructor
    · intro m hmem hr
      exact hmodel m.name hr m.name (List.mem_map_of_mem hmem) rfl
    · intro v hmem hr
      exact hprovider v.name (List.mem_append_left _ hr) v.name (List.mem_map_of_mem hmem) rfl
    · intro m hm v hv heq
      exact hprovider m.name (List.mem_append_right _ (List.mem_map_of_mem hm)) v.name
        (List.mem_map_of_mem hv) heq
  · intro hapart
    refine ⟨⟨nodup_reservedNames h, hm, ?_⟩, hv, ?_⟩
    · rintro stem hr _ hstem rfl
      obtain ⟨m, hmem, rfl⟩ := List.mem_map.1 hstem
      exact hapart.model m hmem hr
    · rintro stem hleft _ hstem rfl
      obtain ⟨v, hmem, rfl⟩ := List.mem_map.1 hstem
      rcases List.mem_append.1 hleft with hr | hmodel
      · exact hapart.provider v hmem hr
      · obtain ⟨m, hmem', heq⟩ := List.mem_map.1 hmodel
        exact hapart.between m hmem' v hmem heq

theorem readme_ne (stem : String) : stem ++ ".swift" ≠ "README.md" := by
  intro h
  have hl := congrArg (fun s => s.toList.getLast?) h
  simp at hl

theorem nodup_texts_iff (p : Plugin) :
    ((Swift.texts p).map Prod.fst).Nodup ↔ p.stems.Nodup := by
  have hinj : Function.Injective (· ++ ".swift" : String → String) := by
    intro a b hab
    simpa using hab
  rw [map_fst_texts, List.nodup_append, List.nodup_map_iff hinj]
  constructor
  · exact fun h => h.1
  · intro h
    refine ⟨h, List.nodup_singleton _, ?_⟩
    rintro name hname _ hreadme rfl
    obtain ⟨stem, _, hstem⟩ := List.mem_map.1 hname
    rw [List.mem_singleton.1 hreadme] at hstem
    exact readme_ne stem hstem

/-- A file with the lines of its text. -/
def sourceOf (file : String × Lines) : SourceFile := ⟨file.1, file.2.joined⟩

/-- All files of a plugin are there, each under its own name. -/
structure Complete (p : Plugin) (sources : List SourceFile) : Prop where
  length : sources.length =
    4 + (if p.providers.isEmpty then 0 else 1) + p.models.length + p.providers.length
  nodup : (sources.map (·.name)).Nodup
  plugin : sourceOf (p.name ++ ".swift", Swift.pluginFile p) ∈ sources
  configuration :
    sourceOf (p.name ++ "Configuration.swift", Swift.configurationFile p) ∈ sources
  manager : sourceOf (p.managerName ++ ".swift", Swift.managerFile p) ∈ sources
  protocol : ∀ name, p.protocolName = some name →
    sourceOf (name ++ ".swift", Swift.protocolFile p name) ∈ sources
  model : ∀ m ∈ p.models, sourceOf (m.name ++ ".swift", Swift.modelFile m) ∈ sources
  provider : ∀ v ∈ p.providers, sourceOf (v.name ++ ".swift", Swift.providerFile p v) ∈ sources
  readme : sourceOf ("README.md", Swift.readme p) ∈ sources

theorem length_texts {p : Plugin} {name : String} (h : p.IsNamed name) :
    (Swift.texts p).length =
      4 + (if p.providers.isEmpty then 0 else 1) + p.models.length + p.providers.length := by
  rw [Swift.texts, h.protocol]
  by_cases hp : p.providers.isEmpty = true
  · simp [hp]
    omega
  · simp [hp]
    omega

/-- The texts are complete if their names differ. -/
theorem complete_of_nodup {p : Plugin} {name : String} (h : p.IsNamed name)
    (hn : ((Swift.texts p).map Prod.fst).Nodup) :
    p.Complete ((Swift.texts p).map sourceOf) := by
  have hmem : ∀ file ∈ Swift.texts p, sourceOf file ∈ (Swift.texts p).map sourceOf :=
    fun file hf => List.mem_map_of_mem hf
  constructor
  · rw [List.length_map, length_texts h]
  · rw [List.map_map]
    exact hn
  · exact hmem _ (by simp [Swift.texts, toString])
  · exact hmem _ (by simp [Swift.texts, toString])
  · exact hmem _ (by simp [Swift.texts, toString])
  · intro protocolName hprotocol
    have hp : ¬ p.providers.isEmpty = true := by
      intro hp
      rw [h.protocol, if_pos hp] at hprotocol
      cases hprotocol
    exact hmem _ (by simp [Swift.texts, hprotocol, hp, toString])
  · intro m hm
    refine hmem _ ?_
    simp only [Swift.texts, List.mem_append, List.mem_map]
    exact Or.inl (Or.inl (Or.inr ⟨m, hm, rfl⟩))
  · intro v hv
    refine hmem _ ?_
    simp only [Swift.texts, List.mem_append, List.mem_map]
    exact Or.inl (Or.inr ⟨v, hv, rfl⟩)
  · exact hmem _ (by simp [Swift.texts])

theorem mapM_ofLines (files : List (String × Lines)) :
    files.mapM (fun file => SourceFile.ofLines true file.1 file.2) = .ok (files.map sourceOf) := by
  induction files with
  | nil => rfl
  | cons file files ih =>
      rw [List.mapM_cons, ih]
      rfl

theorem files_ne_nil (p : Plugin) : Swift.files p ≠ [] := by
  have hput : ∀ name text written, Swift.put name text written ≠ [] := by
    intro name text written
    cases written with
    | nil => exact List.cons_ne_nil _ _
    | cons file written =>
        rw [Swift.put]
        split
        · exact List.cons_ne_nil _ _
        · exact List.cons_ne_nil _ _
  rw [Swift.files, Swift.texts, List.foldl_append]
  exact hput "README.md" (Swift.readme p) _

/-- The sources are there if and only if every default can be spelled. -/
theorem sourceFiles_eq_ok_iff {p : Plugin} {sources : List SourceFile} :
    p.sourceFiles = .ok sources ↔
      (p.configuration.all fun prop => hasSpellableLiteral prop.default) = true ∧
        sources = (Swift.files p).map sourceOf := by
  rw [sourceFiles]
  by_cases hs : (p.configuration.all fun prop => hasSpellableLiteral prop.default) = true
  · simp only [hs, mapM_ofLines]
    constructor
    · intro h
      cases h
      exact ⟨trivial, rfl⟩
    · rintro ⟨_, rfl⟩
      rfl
  · rw [Bool.not_eq_true] at hs
    obtain ⟨file, rest, hfiles⟩ := List.exists_cons_of_ne_nil (files_ne_nil p)
    simp only [hs, hfiles]
    constructor
    · intro h
      cases h
    · intro h
      exact Bool.noConfusion h.1

/-- A plugin whose models have different names, and whose providers have, loses no file if and only
if every default can be spelled and no model or provider has the name of another file. -/
theorem sourceFiles_complete_iff {doc : Value} {p : Plugin} (h : ofSpec doc = .ok p)
    (hm : (p.models.map (·.name)).Nodup) (hv : (p.providers.map (·.name)).Nodup) :
    (∃ sources, p.sourceFiles = .ok sources ∧ p.Complete sources) ↔
      (p.configuration.all fun prop => hasSpellableLiteral prop.default) = true ∧
        p.NamesApart := by
  obtain ⟨name, hname⟩ := isNamed_of_ofSpec h
  rw [← nodup_stems_iff hname hm hv, ← nodup_texts_iff]
  constructor
  · rintro ⟨sources, hsources, hcomplete⟩
    obtain ⟨hs, rfl⟩ := sourceFiles_eq_ok_iff.1 hsources
    refine ⟨hs, Swift.nodup_of_length_files ?_⟩
    have hlength := hcomplete.length
    rwa [List.length_map, ← length_texts hname] at hlength
  · rintro ⟨hs, hn⟩
    refine ⟨(Swift.texts p).map sourceOf, ?_, complete_of_nodup hname hn⟩
    rw [sourceFiles_eq_ok_iff, Swift.files_eq_texts hn]
    exact ⟨hs, rfl⟩

/-- The template with a provider loses no file. -/
theorem sourceFiles_complete_template :
    ∃ p, ofSpec (templateSpec "Analytics" .provider) = .ok p ∧
      ∃ sources, p.sourceFiles = .ok sources ∧ p.Complete sources := by
  have hp : ∃ p, ofSpec (templateSpec "Analytics" .provider) = .ok p := ⟨_, rfl⟩
  obtain ⟨p, hp⟩ := hp
  refine ⟨p, hp, (sourceFiles_complete_iff hp ?_ ?_).2 ⟨?_, ?_, ?_, ?_⟩⟩
  · cases hp
    decide
  · cases hp
    decide
  · cases hp
    rfl
  · cases hp
    decide
  · cases hp
    decide
  · cases hp
    decide

/-- A plugin with a provider that is called like the protocol of providers. -/
def clashingSpec : Value :=
  .record [("name", .str "A"), ("providers", .list [.record [("name", .str "AProvider")]])]

/-- The file of the protocol is lost: that of the provider has taken its place. -/
theorem not_complete_clashingSpec :
    ∃ p, ofSpec clashingSpec = .ok p ∧ (p.models.map (·.name)).Nodup ∧
      (p.providers.map (·.name)).Nodup ∧
      ¬ ∃ sources, p.sourceFiles = .ok sources ∧ p.Complete sources := by
  refine ⟨_, rfl, by decide, by decide, ?_⟩
  rintro ⟨sources, hsources, hcomplete⟩
  have hlength := hcomplete.length
  cases hsources
  revert hlength
  decide

end SpecForge.Plugin
