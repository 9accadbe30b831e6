import SpecForge.Proofs.Command.Order
import SpecForge.Proofs.Command.Report
import SpecForge.Proofs.Document.Alike
import SpecForge.Proofs.Project.Platforms
import SpecForge.Proofs.Shape.Tokens

/-!
# Platforms in another order

A request that names no platform takes those of the configuration. Their order is the order in which
files are dealt with, and files of different platforms never have one place. So it makes no
difference to the files, unless one is written over that is to be kept. A name without a generator
is left out and makes no difference at all.
-/

namespace SpecForge.Command

open Project

/-! ## Names of files -/

/-- Are the files named as those of their platforms? -/
def NamesFiles (sourceFile : Platform → Outcome SourceFile) : Prop :=
  ∀ p file, sourceFile p = .ok file → ∃ stem, file.name = stem ++ p.fileExtension

/-- Are the files named by word characters? -/
def NamesPlainly (sourceFile : Platform → Outcome SourceFile) : Prop :=
  ∀ p file, sourceFile p = .ok file →
    ∃ stem, file.name = stem ++ p.fileExtension ∧ Name.AllWord stem.toList

theorem NamesPlainly.namesFiles {sourceFile : Platform → Outcome SourceFile}
    (h : NamesPlainly sourceFile) : NamesFiles sourceFile := by
  intro p file hfile
  obtain ⟨stem, hname, _⟩ := h p file hfile
  exact ⟨stem, hname⟩

theorem namesFiles_model (m : Model) (source : String) : NamesFiles (m.sourceFile · source) :=
  fun _ _ h => Model.exists_fileName h

/-- Are the files that are not those of models named by word characters? -/
def Work.NamesPlainly : Work → Prop
  | .models _ => True
  | .client sourceFile => Command.NamesPlainly sourceFile
  | .theme sourceFile => Command.NamesPlainly sourceFile

/-! ## Files in a tree in which one file has another text -/

/-- What is done to the files if the file at a place has another text. -/
def Emission.withText (place : List String) (text : String) (e : Emission) : Emission :=
  ⟨e.tree.put place (.file text), e.written, e.fault⟩

/-- The same is done to the files, which differ at one place only. -/
structure Emission.SameBut (place : List String) (e e' : Emission) : Prop where
  tree : e.tree.SameBut place e'.tree
  written : e'.written = e.written
  fault : e'.fault = e.fault

theorem Emission.andThen_withText {e : Emission} {next : Tree → Emission} {place : List String}
    {text : String} (h : next (e.tree.put place (.file text)) = (next e.tree).withText place text) :
    (e.withText place text).andThen next = (e.andThen next).withText place text := by
  obtain ⟨t, ws, _ | f⟩ := e
  · dsimp only at h
    simp only [withText, andThen, h]
  · rfl

namespace GenerateRequest

variable {r : GenerateRequest} {t : Tree}

theorem fileEmission_withText (ht : t.WellFormed) {place : List String} {old : String}
    (hfile : t.get? place = some (.file old)) (text : String) {o : Output}
    (hne : o.target.place ≠ place) : r.fileEmission o (t.put place (.file text)) =
      (r.fileEmission o t).withText place text := by
  rw [fileEmission, fileEmission, Tree.contains_withText text hfile,
    Tree.write_withText text hfile ht hne]
  split
  · rfl
  · split
    · rfl
    · dsimp only [Tree.Change.withText]
      split <;> rfl

theorem filesEmission_withText (ht : t.WellFormed) {place : List String} {old : String}
    (hfile : t.get? place = some (.file old)) (text : String) {os : List (Outcome Output)}
    (hne : ∀ o, .ok o ∈ os → o.target.place ≠ place) :
    r.filesEmission os (t.put place (.file text)) =
      (r.filesEmission os t).withText place text := by
  induction os generalizing t old with
  | nil => rfl
  | cons first os ih =>
      cases first with
      | error f => rfl
      | ok o =>
          have hbecomes := (fileEmission_covers (r := r) ht o).becomes
          obtain ⟨old', hfile'⟩ := hbecomes.file hfile
          have hrest := ih hbecomes.wellFormed hfile' fun o' ho' =>
            hne o' (List.mem_cons_of_mem _ ho')
          rw [filesEmission, filesEmission, fileEmission_withText ht hfile text
            (hne o List.mem_cons_self)]
          exact Emission.andThen_withText hrest

/-! ## Files of different platforms -/

/-- A file goes to a place that ends as the files of its platform do. -/
theorem place_of_outputFor {site : Site} {sourceFile : Platform → Outcome SourceFile}
    (hnames : NamesFiles sourceFile) {p : Platform} {o : Output}
    (h : r.outputFor site sourceFile p = .ok o) :
    ∃ here stem, o.target.place = here ++ [stem ++ p.fileExtension] := by
  obtain ⟨hfile, hplace⟩ := outputFor_eq_ok h
  obtain ⟨stem, hname⟩ := hnames p o.file hfile
  obtain ⟨dir, _, htarget⟩ := directory_of_place hplace
  rw [htarget, hname]
  exact Path.place_join_fileExtension dir stem p

/-- The files for some platforms agree with those for the same platforms in another order. -/
theorem agree_outputFor {site : Site} {sourceFile : Platform → Outcome SourceFile}
    (hnames : NamesFiles sourceFile) {platforms platforms' : List Platform}
    (h : platforms.Perm platforms') :
    Agree (given (platforms.map (r.outputFor site sourceFile)))
      (given (platforms'.map (r.outputFor site sourceFile))) := by
  have hmem : ∀ o ∈ given (platforms.map (r.outputFor site sourceFile)),
      ∃ p, r.outputFor site sourceFile p = .ok o := by
    intro o ho
    obtain ⟨outcome, houtcome, ho⟩ := List.mem_filterMap.1 ho
    obtain ⟨p, _, rfl⟩ := List.mem_map.1 houtcome
    exact ⟨p, eq_ok_of_toOption ho⟩
  refine agree_of_perm ((h.map _).filterMap _) fun o ho o' ho' hplace => ?_
  obtain ⟨p, hp⟩ := hmem o ho
  obtain ⟨p', hp'⟩ := hmem o' ho'
  obtain ⟨here, stem, hends⟩ := place_of_outputFor hnames hp
  obtain ⟨here', stem', hends'⟩ := place_of_outputFor hnames hp'
  rw [hends, hends'] at hplace
  obtain rfl := Path.platform_of_place hplace
  rw [hp] at hp'
  exact Except.ok.inj hp'

/-! ## What a request finds in both trees -/

/-- Does the request take its platforms from the configuration? -/
def TakesConfigured (r : GenerateRequest) : Prop :=
  ∀ s ∈ r.platform, (s.isEmpty || Text.lower s == "all") = true

theorem platformsFor_of_takesConfigured (h : r.TakesConfigured) (c : Config) :
    c.platformsFor r.platform = c.platforms.map Text.lower := by
  cases hp : r.platform with
  | none => rfl
  | some s => rw [Config.platformsFor, if_pos (h s hp)]

section

variable {base : Project.Path} {u : Tree} {names names' : List String}
  (hu : Config.Offers base t names names' u)

include hu

theorem presentSource_of_offers (config : Config) :
    r.presentSource ⟨base, { config with platforms := names' }⟩ u =
      r.presentSource ⟨base, config⟩ t := by
  obtain ⟨found, _, _, _⟩ := hu
  have hfile := (Tree.get?_of_look found).1
  simp only [presentSource, Tree.contains_withText _ hfile]
  rfl

theorem schemaFiles_of_offers (source : Project.Path) (name : Option String) :
    u.schemaFiles source name = t.schemaFiles source name := by
  obtain ⟨found, _, _, _⟩ := hu
  have hfile := (Tree.get?_of_look found).1
  rw [Tree.schemaFiles, Tree.schemaFiles, Tree.look_withText _ hfile]
  simp only [Tree.names_withText _ hfile]
  cases t.look source with
  | error f => rfl
  | ok there => obtain _ | ⟨here, _ | text⟩ := there <;> rfl

theorem work_of_offers (config : Config) (source : Project.Path) :
    r.work ⟨base, { config with platforms := names' }⟩ source u =
      r.work ⟨base, config⟩ source t := by
  rw [work, work]
  cases r.target with
  | model =>
      dsimp only
      rw [schemaFiles_of_offers hu]
  | apiClient =>
      dsimp only
      rw [hu.document_bind fun _ _ => Api.ofDocument_of_agreeBut]
  | theme =>
      dsimp only
      rw [hu.document_bind fun _ _ h => Theme.ofTokens_of_agreeBut h _]
      rfl

theorem modelOutputs_of_offers (config : Config) (platforms : List Platform)
    (schema : Project.Path) :
    r.modelOutputs ⟨base, { config with platforms := names' }⟩ platforms u schema =
      r.modelOutputs ⟨base, config⟩ platforms t schema := by
  rw [modelOutputs, modelOutputs, hu.document_bind fun _ _ => Model.ofSchema_of_agreeBut]
  rfl

theorem planOutputs_of_offers (config : Config) (platforms : List Platform) (work : Work) :
    r.planOutputs ⟨⟨base, { config with platforms := names' }⟩, platforms, work⟩ u =
      r.planOutputs ⟨⟨base, config⟩, platforms, work⟩ t := by
  cases work with
  | models schemas =>
      rw [planOutputs, planOutputs]
      dsimp only
      rw [funext (modelOutputs_of_offers hu config platforms)]
  | client sourceFile => rfl
  | theme sourceFile => rfl

end

/-! ## The files of a plan -/

theorem namesPlainly_of_work {site : Site} {source : Project.Path} {work : Work}
    (h : r.work site source t = .ok work) : work.NamesPlainly := by
  rw [GenerateRequest.work] at h
  split at h
  · obtain ⟨schemas, _, h⟩ := bind_eq_ok_iff.1 h
    split at h
    · cases h
    · cases h
      trivial
  · obtain ⟨api, hapi, h⟩ := bind_eq_ok_iff.1 h
    obtain ⟨doc, _, hapi⟩ := bind_eq_ok_iff.1 hapi
    cases h
    exact fun p file hfile => Api.exists_fileName hapi hfile
  · obtain ⟨theme, htheme, h⟩ := bind_eq_ok_iff.1 h
    obtain ⟨tokens, _, htheme⟩ := bind_eq_ok_iff.1 htheme
    cases h
    have hname : Name.AllWord theme.name.toList := by
      rw [(Theme.isReadFrom_of_ofTokens htheme).named]
      exact site.config.allWord_themeName
    exact fun p file hfile => Theme.exists_fileName hname hfile

/-- The files of a plan agree with those for the same platforms in another order. -/
theorem agree_planOutputs {site : Site} {work : Work} (hwork : work.NamesPlainly)
    {platforms platforms' : List Platform} (h : platforms.Perm platforms') :
    Agree (given (r.planOutputs ⟨site, platforms, work⟩ t))
      (given (r.planOutputs ⟨site, platforms', work⟩ t)) := by
  cases work with
  | client sourceFile => exact agree_outputFor hwork.namesFiles h
  | theme sourceFile => exact agree_outputFor hwork.namesFiles h
  | models schemas =>
      rw [planOutputs, planOutputs]
      dsimp only
      rw [given, given, List.filterMap_flatMap, List.filterMap_flatMap]
      refine Agree.flatMap (fun schema => ?_) schemas
      rw [modelOutputs, modelOutputs]
      cases (t.document schema).bind Model.ofSchema with
      | error f => exact .refl _
      | ok m => exact agree_outputFor (namesFiles_model m schema.name) h

/-- Where the files of a plan come from: their names end as those of their platforms do, and only
those of models may have other characters than word characters. -/
theorem exists_named_outputFor {plan : Plan} (hwork : plan.work.NamesPlainly) {o : Output}
    (h : .ok o ∈ r.planOutputs plan t) :
    ∃ sourceFile p, r.outputFor plan.site sourceFile p = .ok o ∧ NamesFiles sourceFile ∧
      ((∀ schemas, plan.work ≠ .models schemas) → Command.NamesPlainly sourceFile) := by
  obtain ⟨site, platforms, work⟩ := plan
  cases work with
  | models schemas =>
      obtain ⟨schema, _, hmem⟩ := List.mem_flatMap.1 h
      obtain ⟨p, _, hmodel⟩ := ok_mem_modelOutputs_iff.1 hmem
      obtain ⟨m, hp⟩ := outputFor_of_modelOutput hmodel
      exact ⟨_, p, hp, namesFiles_model m _, fun hmodels => absurd rfl (hmodels schemas)⟩
  | client sourceFile =>
      obtain ⟨p, _, hp⟩ := List.mem_map.1 h
      exact ⟨sourceFile, p, hp, hwork.namesFiles, fun _ => hwork⟩
  | theme sourceFile =>
      obtain ⟨p, _, hp⟩ := List.mem_map.1 h
      exact ⟨sourceFile, p, hp, hwork.namesFiles, fun _ => hwork⟩

/-- Only the names of files of models may lead back. -/
theorem up_not_mem_of_mem_planOutputs {plan : Plan} (hwork : plan.work.NamesPlainly)
    (hmodel : ∀ schemas, plan.work ≠ .models schemas) {o : Output}
    (h : .ok o ∈ r.planOutputs plan t) : Path.up ∉ Path.stepsOf o.file.name := by
  obtain ⟨sourceFile, p, hp, _, hplain⟩ := exists_named_outputFor hwork h
  obtain ⟨stem, hname, hword⟩ := hplain hmodel p o.file (outputFor_eq_ok hp).1
  rw [hname]
  exact Path.up_not_mem_stepsOf hword p

/-- No file of a plan goes to the place of a configuration. -/
theorem place_ne_of_mem_planOutputs {plan : Plan} (hwork : plan.work.NamesPlainly) {o : Output}
    (h : .ok o ∈ r.planOutputs plan t) {place : List String}
    (hplace : place.getLast? = some Config.fileName) : o.target.place ≠ place := by
  obtain ⟨sourceFile, p, hp, hnames, _⟩ := exists_named_outputFor hwork h
  obtain ⟨here, stem, hends⟩ := place_of_outputFor hnames hp
  intro heq
  rw [← heq, hends, List.getLast?_concat, Option.some.injEq] at hplace
  have hjson : Text.endsWith Config.fileName ".json" = true := by decide
  rw [← hplace, endsWith_fileExtension] at hjson
  cases hjson

/-! ## Other platforms -/

/-- The platforms that names of a configuration lead to. -/
def namedPlatforms (r : GenerateRequest) (names : List String) : List Platform :=
  supported r.target (names.map Text.lower)

theorem chosenPlatforms_eq_ok (hr : r.TakesConfigured) {site : Site}
    (h : r.namedPlatforms site.config.platforms ≠ []) :
    r.chosenPlatforms site = .ok (r.namedPlatforms site.config.platforms) := by
  have hnames : ¬ (site.config.platforms.map Text.lower).isEmpty = true := by
    intro hempty
    rw [namedPlatforms, List.isEmpty_iff.1 hempty] at h
    exact h rfl
  rw [chosenPlatforms, platformsFor_of_takesConfigured hr, if_neg hnames]
  exact if_neg (by simpa [namedPlatforms] using h)

theorem eq_namedPlatforms (hr : r.TakesConfigured) {site : Site} {platforms : List Platform}
    (h : r.chosenPlatforms site = .ok platforms) :
    platforms = r.namedPlatforms site.config.platforms := by
  rw [eq_supported_of_chosenPlatforms h, platformsFor_of_takesConfigured hr]
  rfl

section

variable {base : Project.Path} {u : Tree} {names names' : List String}
  (hu : Config.Offers base t names names' u) (hr : r.TakesConfigured)

include hu hr

/-- If the names lead to the same platforms, the request comes to the same files. -/
theorem outputs_of_offers (hsame : r.namedPlatforms names' = r.namedPlatforms names)
    (hsome : r.namedPlatforms names ≠ []) : r.outputs base u = r.outputs base t := by
  rw [outputs, outputs, plan, plan, hu.load_eq]
  cases hload : Config.load t base with
  | error f => rfl
  | ok config =>
      obtain rfl := hu.platforms_eq hload
      simp only [Except.map, Except.bind]
      rw [presentSource_of_offers hu]
      cases r.presentSource ⟨base, config⟩ t with
      | error f => rfl
      | ok source =>
          dsimp only
          rw [planFrom, planFrom, work_of_offers hu]
          cases r.work ⟨base, config⟩ source t with
          | error f => rfl
          | ok work =>
              have hchosen : r.chosenPlatforms ⟨base, config⟩ = _ := chosenPlatforms_eq_ok hr hsome
              rw [← hsame] at hsome
              have hchosen' : r.chosenPlatforms ⟨base, { config with platforms := names' }⟩ = _ :=
                chosenPlatforms_eq_ok hr hsome
              simp only [Except.bind, hchosen, hchosen', hsame]
              exact planOutputs_of_offers hu config _ work

/-- The files of a request in both trees are those of one plan for the platforms of both. -/
theorem exists_planOutputs_of_offers {plan plan' : Plan} (h : r.plan base t = .ok plan)
    (h' : r.plan base u = .ok plan') :
    ∃ site work, work.NamesPlainly ∧
      r.outputs base t = r.planOutputs ⟨site, r.namedPlatforms names, work⟩ t ∧
      r.outputs base u = r.planOutputs ⟨site, r.namedPlatforms names', work⟩ t := by
  obtain ⟨source, hplans⟩ := plans_of_plan h
  obtain ⟨source', hplans'⟩ := plans_of_plan h'
  rw [outputs, outputs, h, h']
  obtain ⟨⟨base₁, config⟩, platforms, work⟩ := plan
  obtain ⟨⟨base₂, config'⟩, platforms', work'⟩ := plan'
  obtain rfl : base₁ = base := hplans.site
  obtain rfl : base₂ = base₁ := hplans'.site
  have hload : Config.load t base₂ = .ok config := hplans.config
  have hload' : Config.load u base₂ = .ok config' := hplans'.config
  rw [hu.load_eq, hload] at hload'
  obtain rfl : { config with platforms := names' } = config' := Except.ok.inj hload'
  have hpath : r.sourcePath ⟨base₂, config⟩ = .ok source := hplans.path
  obtain rfl : source = source' := Except.ok.inj (hpath.symm.trans hplans'.path)
  have hwork' : r.work ⟨base₂, _⟩ source u = .ok work' := hplans'.work
  rw [work_of_offers hu] at hwork'
  obtain rfl : work = work' := Except.ok.inj (hplans.work.symm.trans hwork')
  obtain rfl := hu.platforms_eq hload
  obtain rfl : platforms = r.namedPlatforms config.platforms :=
    eq_namedPlatforms hr hplans.platforms
  obtain rfl : platforms' = r.namedPlatforms names' := eq_namedPlatforms hr hplans'.platforms
  refine ⟨_, work, namesPlainly_of_work hplans.work, rfl, ?_⟩
  exact planOutputs_of_offers hu config _ work

end

/-- What a request does to the other tree is what a run over its files does to this one. -/
theorem emission_of_offers (ht : t.WellFormed) {base : Project.Path} {u : Tree}
    {names names' : List String} (hu : Config.Offers base t names names' u) :
    (r.filesEmission (r.outputs base u) t).SameBut (base.join Config.fileName).place
      (r.emission base u) := by
  have hne : ∀ o, .ok o ∈ r.outputs base u → ∀ place : List String,
      place.getLast? = some Config.fileName → o.target.place ≠ place := by
    intro o ho place hplace
    obtain ⟨plan, hplan, ho⟩ := exists_plan_of_mem_outputs ho
    obtain ⟨source, hplans⟩ := plans_of_plan hplan
    exact place_ne_of_mem_planOutputs (namesPlainly_of_work hplans.work) ho hplace
  obtain ⟨found, other, before, after⟩ := hu
  rename_i place old new front back
  obtain ⟨hfile, hname⟩ := Tree.get?_of_look found
  rw [Config.name_join_fileName] at hname
  have hplace := (Tree.find_eq_entry ht (Tree.look_eq_some_iff.1 found).2).1
  rw [emission_eq r (Tree.wellFormed_withText new hfile ht),
    filesEmission_withText ht hfile new fun o ho => hne o ho place hname, ← hplace]
  obtain ⟨text, htext⟩ := (filesEmission_covers ht _).becomes.file hfile
  exact ⟨Tree.sameBut_withText new htext, rfl, rfl⟩

/-! ## What the order of platforms leaves as it is -/

/-- Does the request write to new places only, unless it writes nothing or may write over files? -/
def WritesFreely (r : GenerateRequest) (base : Project.Path) (t : Tree) : Prop :=
  r.isDryRun = true ∨ r.overwrite = true ∨ t.Fresh (r.emission base t).written

theorem target_of_models {site : Site} {source : Project.Path} {schemas : List Project.Path}
    (h : r.work site source t = .ok (.models schemas)) : r.target = .model := by
  rw [GenerateRequest.work] at h
  split at h
  · assumption
  · obtain ⟨_, _, h⟩ := bind_eq_ok_iff.1 h
    cases h
  · obtain ⟨_, _, h⟩ := bind_eq_ok_iff.1 h
    cases h

/-- A request writes freely if no name of a file leads back; those of clients and themes do not. -/
theorem writesFreely_of_names (ht : t.WellFormed) {base : Project.Path}
    (h : r.target = .model → ∀ o, .ok o ∈ r.outputs base t →
      Path.up ∉ Path.stepsOf o.file.name) : r.WritesFreely base t := by
  cases hover : r.overwrite with
  | true => exact .inr (.inl hover)
  | false =>
      refine .inr (.inr (emission_fresh ht hover fun o ho => ?_))
      by_cases hmodel : r.target = .model
      · exact h hmodel o ho
      · obtain ⟨plan, hplan, ho⟩ := exists_plan_of_mem_outputs ho
        obtain ⟨source, hplans⟩ := plans_of_plan hplan
        refine up_not_mem_of_mem_planOutputs (namesPlainly_of_work hplans.work) ?_ ho
        intro schemas hwork
        have hplanned := hplans.work
        rw [hwork] at hplanned
        exact hmodel (target_of_models hplanned)

theorem exists_plan_of_fault {base : Project.Path} (h : (r.emission base t).fault = none) :
    ∃ plan, r.plan base t = .ok plan := by
  rw [emission] at h
  cases hplan : r.plan base t with
  | error f =>
      rw [hplan] at h
      cases h
  | ok plan => exact ⟨plan, rfl⟩

/-- If two requests for the same platforms in two orders go well, the files are the same. -/
theorem sameBut_of_perm (ht : t.WellFormed) {base : Project.Path} {u : Tree}
    {names names' : List String} (hu : Config.Offers base t names names' u)
    (hr : r.TakesConfigured) (hperm : names.Perm names')
    (hfault : (r.emission base t).fault = none) (hfault' : (r.emission base u).fault = none)
    (hfree : r.WritesFreely base t) (hfree' : r.WritesFreely base u) :
    (r.emission base t).tree.SameBut (base.join Config.fileName).place
      (r.emission base u).tree := by
  have hother := r.emission_of_offers ht hu
  obtain ⟨plan, hplan⟩ := exists_plan_of_fault hfault
  obtain ⟨plan', hplan'⟩ := exists_plan_of_fault hfault'
  obtain ⟨site, work, hwork, hos, hos'⟩ := exists_planOutputs_of_offers hu hr hplan hplan'
  have hagree : Agree (given (r.outputs base t)) (given (r.outputs base u)) := by
    rw [hos, hos']
    exact agree_planOutputs hwork ((hperm.map Text.lower).filterMap _)
  have hfresh : r.isDryRun = true ∨ r.overwrite = true ∨
      t.Fresh (r.filesEmission (r.outputs base t) t).written ∧
        t.Fresh (r.filesEmission (r.outputs base u) t).written := by
    rw [WritesFreely, r.emission_eq ht] at hfree
    rw [WritesFreely, hother.written] at hfree'
    rcases hfree with hdry | hover | hfresh
    · exact .inl hdry
    · exact .inr (.inl hover)
    · rcases hfree' with hdry | hover | hfresh'
      · exact .inl hdry
      · exact .inr (.inl hover)
      · exact .inr (.inr ⟨hfresh, hfresh'.nodup, fun w hw => hu.get?_eq_none (hfresh'.free w hw)⟩)
  rw [r.emission_eq ht] at hfault ⊢
  rw [hother.fault] at hfault'
  intro place hplace
  rw [hother.tree place hplace, hagree.get?_filesEmission ht hfault hfault' hfresh]

/-- The second list is the first one with further names, for which there is no generator. -/
inductive AddsUnsupported (target : Target) : List String → List String → Prop
  | nil : AddsUnsupported target [] []
  | keep (name : String) {names names' : List String} (rest : AddsUnsupported target names names') :
      AddsUnsupported target (name :: names) (name :: names')
  | add {name : String} {names names' : List String}
      (unsupported : Generator.builtin.supports target.name (Text.lower name) = false)
      (rest : AddsUnsupported target names names') :
      AddsUnsupported target names (name :: names')

theorem namedPlatforms_of_addsUnsupported {names names' : List String}
    (h : AddsUnsupported r.target names names') :
    r.namedPlatforms names' = r.namedPlatforms names := by
  induction h with
  | nil => rfl
  | keep name _ ih =>
      simp only [namedPlatforms, supported] at ih ⊢
      rw [List.map_cons, List.map_cons, List.filterMap_cons, List.filterMap_cons, ih]
  | add hunsupported _ ih =>
      rw [Registry.supports, Option.isSome_eq_false_iff, Option.isNone_iff_eq_none] at hunsupported
      rw [← ih, namedPlatforms, supported, List.map_cons, List.filterMap_cons_none]
      · rfl
      · rw [hunsupported]
        rfl

theorem namedPlatforms_ne_nil {names : List String} {name : String} (hname : name ∈ names)
    (h : Generator.builtin.supports r.target.name (Text.lower name) = true) :
    r.namedPlatforms names ≠ [] := by
  obtain ⟨generator, hfound⟩ := Option.isSome_iff_exists.1 h
  refine List.ne_nil_of_mem (a := generator.platform)
    (List.mem_filterMap.2 ⟨Text.lower name, ?_, ?_⟩)
  · exact List.mem_map_of_mem hname
  · rw [hfound]
    rfl

end GenerateRequest

/-- Other platforms in the configuration. Their order makes no difference to the files, if both runs
end well and each of them writes freely. Further names for which there is no generator make none at
all, neither to the status nor to the files. A run writes freely if no name of a model leads back,
and always if it is not models that are generated. -/
theorem run_platforms {env : Environment} {t u : Tree} {input : String} {words : List String}
    {r : GenerateRequest} {names names' : List String} (ht : t.WellFormed)
    (hread : Request.read words = .ok (.generate r)) (hr : r.TakesConfigured)
    (hu : Config.Offers env.directory t names names' u) :
    (names.Perm names' → (run env t input words).status = 0 →
      (run env u input words).status = 0 → r.WritesFreely env.directory t →
        r.WritesFreely env.directory u →
          (run env t input words).tree.SameBut (env.directory.join Config.fileName).place
            (run env u input words).tree) ∧
      (GenerateRequest.AddsUnsupported r.target names names' →
        (∃ name ∈ names, Generator.builtin.supports r.target.name (Text.lower name) = true) →
          (run env u input words).status = (run env t input words).status ∧
            (run env t input words).tree.SameBut (env.directory.join Config.fileName).place
              (run env u input words).tree) ∧
      ∀ v : Tree, v.WellFormed → (r.target = .model → ∀ o, .ok o ∈ r.outputs env.directory v →
        Path.up ∉ Path.stepsOf o.file.name) → r.WritesFreely env.directory v := by
  refine ⟨fun hperm hstatus hstatus' hfree hfree' => ?_, fun hadds hsome => ?_,
    fun v hv hnames => GenerateRequest.writesFreely_of_names hv hnames⟩
  · rw [run_tree hread, run_tree hread]
    exact GenerateRequest.sameBut_of_perm ht hu hr hperm (fault_of_run hread hstatus)
      (fault_of_run hread hstatus') hfree hfree'
  · obtain ⟨name, hname, hsupported⟩ := hsome
    have hother := r.emission_of_offers ht hu
    rw [GenerateRequest.outputs_of_offers hu hr
      (GenerateRequest.namedPlatforms_of_addsUnsupported hadds)
      (GenerateRequest.namedPlatforms_ne_nil hname hsupported), ← r.emission_eq ht] at hother
    rw [run_tree hread, run_tree hread, run_status hread, run_status hread, hother.fault]
    exact ⟨rfl, hother.tree⟩

/-- The text of a configuration that names platforms. -/
def offeringText (names : List String) : String :=
  Json.indented (Config.offering [(.str "name", .str "a")] [] names)

/-- A project that names platforms, with a schema of this title. In its directory for code there is
a file already. -/
def offeringProject (title : String) (names : List String) : Tree where
  entries :=
    [(["work"], .directory), (["work", Config.fileName], .file (offeringText names)),
      (["work", "u.json"],
        .file (Json.indented (.record [("type", .str "object"), ("title", .str title)]))),
      (["work", "o"], .directory), (["work", "o", "User.kt"], .file "mine")]

theorem wellFormed_offeringProject (title : String) (names : List String) :
    (offeringProject title names).WellFormed := by
  refine Tree.wellFormed_of_entries fun entry hentry => ?_
  simp only [offeringProject, List.mem_cons, List.not_mem_nil, or_false] at hentry
  rcases hentry with rfl | rfl | rfl | rfl | rfl <;> rfl

/-- Can the configuration be read again from its text? -/
def IsOffered (names : List String) : Prop :=
  Json.read (String.ofList (Text.unifyBreaks (offeringText names).toList)) =
    .ok (Config.offering [(.str "name", .str "a")] [] names)

theorem offers_offeringProject (title : String) {names names' : List String}
    (h : IsOffered names) (h' : IsOffered names') :
    Config.Offers projectPlace.directory (offeringProject title names) names names'
      (offeringProject title names') := by
  have hfound : (offeringProject title names).look
      (projectPlace.directory.join Config.fileName) =
        .ok (some (["work", Config.fileName], .file (offeringText names))) := by
    refine Tree.look_eq_some_iff.2 ⟨by decide, ?_⟩
    rw [Tree.find, if_neg (by decide +kernel)]
    rfl
  exact .intro hfound (by decide) h h'

theorem isOffered_androidIos : IsOffered ["android", "ios"] :=
  Value.eq_ok_of_alike (by decide +kernel)

theorem isOffered_iosAndroid : IsOffered ["ios", "android"] :=
  Value.eq_ok_of_alike (by decide +kernel)

theorem takesConfigured_projectWords {r : GenerateRequest}
    (hr : Request.read projectWords = .ok (.generate r)) : r.TakesConfigured := by
  cases hr
  exact fun s hs => absurd hs (Option.not_mem_none s)

/-- The schema of this title has the same files in both orders. -/
theorem sameBut_offeringProject :
    let t := offeringProject "Order" ["android", "ios"]
    let u := offeringProject "Order" ["ios", "android"]
    t.WellFormed ∧ Config.Offers projectPlace.directory t ["android", "ios"] ["ios", "android"] u ∧
      (run projectPlace t "" projectWords).tree.SameBut ["work", Config.fileName]
        (run projectPlace u "" projectWords).tree := by
  intro t u
  have ht : t.WellFormed := wellFormed_offeringProject _ _
  have hu : Config.Offers projectPlace.directory t ["android", "ios"] ["ios", "android"] u :=
    offers_offeringProject _ isOffered_androidIos isOffered_iosAndroid
  refine ⟨ht, hu, (run_platforms ht rfl (takesConfigured_projectWords rfl) hu).1 ?_ ?_ ?_ ?_ ?_⟩
  · exact .swap _ _ _
  · decide +kernel
  · decide +kernel
  · exact .inr (.inr ⟨by decide +kernel, by decide +kernel⟩)
  · exact .inr (.inr ⟨by decide +kernel, by decide +kernel⟩)

/-- A title leads back through a directory that is not there at first. The file that there is
already is written over if its platform comes first, and is kept if the other one does. -/
theorem not_sameBut_offeringProject :
    let t := offeringProject "x/../User" ["android", "ios"]
    let u := offeringProject "x/../User" ["ios", "android"]
    ∃ r, Request.read projectWords = .ok (.generate r) ∧ r.TakesConfigured ∧ t.WellFormed ∧
      Config.Offers projectPlace.directory t ["android", "ios"] ["ios", "android"] u ∧
      ["android", "ios"].Perm ["ios", "android"] ∧
      (run projectPlace t "" projectWords).status = 0 ∧
      (run projectPlace u "" projectWords).status = 0 ∧
      ¬ (run projectPlace t "" projectWords).tree.SameBut ["work", Config.fileName]
        (run projectPlace u "" projectWords).tree := by
  intro t u
  obtain ⟨hstatus, hlost⟩ : (run projectPlace t "" projectWords).status = 0 ∧
      (run projectPlace t "" projectWords).tree.get? ["work", "o", "User.kt"] ≠
        some (.file "mine") := by decide +kernel
  obtain ⟨hstatus', hkept⟩ : (run projectPlace u "" projectWords).status = 0 ∧
      (run projectPlace u "" projectWords).tree.get? ["work", "o", "User.kt"] =
        some (.file "mine") := by decide +kernel
  refine ⟨_, rfl, takesConfigured_projectWords rfl, wellFormed_offeringProject _ _,
    offers_offeringProject _ isOffered_androidIos isOffered_iosAndroid, .swap _ _ _, hstatus,
    hstatus', fun hsame => ?_⟩
  exact hlost ((hsame ["work", "o", "User.kt"] (by decide)).symm.trans hkept)

end SpecForge.Command
