import SpecForge.Proofs.Command.KeptFiles
import SpecForge.Proofs.Lines

/-!
# Which model a file holds

The name of a file comes from the name of a model, and nothing keeps two schemas from having models
of one name. Where files may be written over, each schema writes its file, and the last one stays.
The code names the file of its schema, so it shows from which one it comes.
-/

namespace SpecForge

theorem Model.exists_code_eq (p : Platform) (m : Model) (source : String) :
    ∃ lines, m.code p source = Lines.header source ++ lines := by
  cases p with
  | ios => exact ⟨_, List.append_assoc _ _ _⟩
  | android => exact ⟨_, List.append_assoc _ _ _⟩
  | web => exact ⟨_, rfl⟩

/-- Equal codes come from schemas of one name. -/
theorem Model.eq_of_joined_code {p : Platform} {m m' : Model} {source source' : String}
    (h : (m.code p source).joined = (m'.code p source').joined) (hs : '/' ∉ source.toList)
    (hs' : '/' ∉ source'.toList) : source = source' := by
  obtain ⟨lines, hlines⟩ := m.exists_code_eq p source
  obtain ⟨lines', hlines'⟩ := m'.exists_code_eq p source'
  rw [hlines, hlines'] at h
  exact Lines.eq_of_joined_header h hs hs'

namespace Command

open Project

/-- The last item of a list with a property. -/
theorem exists_last {α : Type} {P : α → Prop} {l : List α} (h : ∃ a ∈ l, P a) :
    ∃ before last after, l = before ++ last :: after ∧ P last ∧ ∀ a ∈ after, ¬ P a := by
  induction l with
  | nil =>
      obtain ⟨a, ha, _⟩ := h
      exact absurd ha List.not_mem_nil
  | cons b l ih =>
      by_cases hl : ∃ a ∈ l, P a
      · obtain ⟨before, last, after, hsplit, hlast, hafter⟩ := ih hl
        refine ⟨b :: before, last, after, ?_, hlast, hafter⟩
        rw [hsplit, List.cons_append]
      · obtain ⟨a, ha, hP⟩ := h
        rcases List.mem_cons.1 ha with rfl | ha
        · exact ⟨[], a, l, rfl, hP, fun a' ha' hP' => hl ⟨a', ha', hP'⟩⟩
        · exact absurd ⟨a, ha, hP⟩ hl

namespace GenerateRequest

variable {r : GenerateRequest} {t : Tree}

/-! ## Everything that is to be written is written -/

/-- The writes of the files of a list. -/
def writesOf (os : List (Outcome Output)) : List Write :=
  os.filterMap fun o => o.toOption.map Output.write

theorem mem_writesOf {os : List (Outcome Output)} {w : Write} :
    w ∈ writesOf os ↔ ∃ o, .ok o ∈ os ∧ w = o.write := by
  rw [writesOf, List.mem_filterMap]
  constructor
  · rintro ⟨outcome, hmem, hw⟩
    cases outcome with
    | error f => cases hw
    | ok o =>
        cases hw
        exact ⟨o, hmem, rfl⟩
  · rintro ⟨o, hmem, rfl⟩
    exact ⟨.ok o, hmem, rfl⟩

theorem writesOf_append (os rest : List (Outcome Output)) :
    writesOf (os ++ rest) = writesOf os ++ writesOf rest := List.filterMap_append

/-- Every file is there, and all of them have been written in their order. -/
structure WritesAll (t : Tree) (os : List (Outcome Output)) (e : Emission) : Prop where
  ok : ∀ outcome ∈ os, ∃ o, outcome = .ok o
  written : e.written = writesOf os
  found : ∀ o, .ok o ∈ os → ∃ text, e.tree.look o.target = .ok (some (o.target.place, .file text))

theorem filesEmission_writesAll (ht : t.WellFormed) (hover : r.overwrite = true)
    (hdry : r.isDryRun = false) {os : List (Outcome Output)}
    (hf : (r.filesEmission os t).fault = none) : WritesAll t os (r.filesEmission os t) := by
  induction os generalizing t with
  | nil =>
      constructor
      · exact fun _ h => absurd h List.not_mem_nil
      · rfl
      · exact fun _ h => absurd h List.not_mem_nil
  | cons first rest ih =>
      cases first with
      | error f => cases hf
      | ok o =>
          rw [filesEmission] at hf ⊢
          cases hfirst : (r.fileEmission o t).fault with
          | some f =>
              rw [Emission.andThen_of_fault hfirst, hfirst] at hf
              cases hf
          | none =>
              rw [Emission.andThen_of_none hfirst] at hf ⊢
              rcases fileEmission_cases r ht o with hw | hs
              · have hrest := ih hw.becomes.wellFormed hf
                have hbecomes := (filesEmission_covers (r := r) hw.becomes.wellFormed rest).becomes
                constructor
                · rw [List.forall_mem_cons]
                  exact ⟨⟨o, rfl⟩, hrest.ok⟩
                · rw [hw.written, hrest.written]
                  rfl
                · intro o' ho'
                  rcases List.mem_cons.1 ho' with heq | ho'
                  · cases heq
                    obtain ⟨_, hfind⟩ := Tree.look_eq_some_iff.1 hw.found
                    have hget := (Tree.find_eq_entry hw.becomes.wellFormed hfind).2
                    obtain ⟨text, htext⟩ := hbecomes.file hget
                    exact ⟨text, hbecomes.look_file hw.found htext⟩
                  · exact hrest.found o' ho'
              · rcases hs.reason hfirst with hno | hyes
                · rw [hover] at hno
                  cases hno
                · rw [hdry] at hyes
                  cases hyes

/-! ## The last schema of a file -/

/-- Files of different platforms have different places. -/
theorem platform_of_place {site : Site} {schema schema' : Project.Path} {p p' : Platform}
    {o o' : Output} (h : r.modelOutput site t schema p = .ok o)
    (h' : r.modelOutput site t schema' p' = .ok o') (hplace : o.target.place = o'.target.place) :
    p = p' := by
  obtain ⟨here, stem, hends⟩ := place_of_modelOutput h
  obtain ⟨here', stem', hends'⟩ := place_of_modelOutput h'
  rw [hends, hends'] at hplace
  exact Path.platform_of_place hplace

/-- The schema is the last one whose file for a platform goes to a place. -/
structure IsLast (r : GenerateRequest) (site : Site) (t : Tree) (schemas : List Project.Path)
    (p : Platform) (place : List String) (schema : Project.Path) (o : Output) : Prop where
  output : r.modelOutput site t schema p = .ok o
  reaches : o.target.place = place
  last : ∃ before after, schemas = before ++ schema :: after ∧
    ∀ later ∈ after, ∀ o', r.modelOutput site t later p = .ok o' → o'.target.place ≠ place

theorem IsLast.mem {site : Site} {schemas : List Project.Path} {p : Platform}
    {place : List String} {schema : Project.Path} {o : Output}
    (h : r.IsLast site t schemas p place schema o) : schema ∈ schemas := by
  obtain ⟨before, after, hsplit, _⟩ := h.last
  rw [hsplit]
  exact List.mem_append_right _ List.mem_cons_self

theorem exists_isLast {site : Site} {schemas : List Project.Path} {p : Platform}
    {schema : Project.Path} {o : Output} (hschema : schema ∈ schemas)
    (h : r.modelOutput site t schema p = .ok o) :
    ∃ last o', r.IsLast site t schemas p o.target.place last o' := by
  obtain ⟨before, last, after, hsplit, ⟨o', hout, hplace⟩, hafter⟩ :=
    exists_last (P := fun s => ∃ o', r.modelOutput site t s p = .ok o' ∧
      o'.target.place = o.target.place) ⟨schema, hschema, o, h, rfl⟩
  refine ⟨last, o', hout, hplace, before, after, hsplit, ?_⟩
  exact fun later hlater o'' hout'' hplace'' => hafter later hlater ⟨o'', hout'', hplace''⟩

/-- What is written at last at a place is the code of the last schema of the place. -/
theorem lastText_writesOf {site : Site} {platforms : List Platform} {schemas : List Project.Path}
    {p : Platform} {place : List String} {schema : Project.Path} {o : Output}
    (h : r.IsLast site t schemas p place schema o) (hp : p ∈ platforms) :
    lastText place (writesOf (schemas.flatMap (r.modelOutputs site platforms t))) =
      some o.file.text := by
  obtain ⟨before, after, hsplit, hafter⟩ := h.last
  have hout := h.output
  have hplace := h.reaches
  have hlater : lastText place (writesOf (after.flatMap (r.modelOutputs site platforms t))) =
      none := by
    rw [lastText_eq_none_iff]
    intro hmem
    obtain ⟨w, hw, hwplace⟩ := List.mem_map.1 hmem
    obtain ⟨o', ho', rfl⟩ := mem_writesOf.1 hw
    obtain ⟨later, hlater, ho'⟩ := List.mem_flatMap.1 ho'
    obtain ⟨p', _, hout'⟩ := ok_mem_modelOutputs_iff.1 ho'
    obtain rfl := platform_of_place hout hout' (hplace.trans hwplace.symm)
    exact hafter later hlater o' hout' hwplace
  have hown : lastText place (writesOf (r.modelOutputs site platforms t schema)) =
      some o.file.text := by
    refine lastText_eq_some ?_ fun w hw hwplace => ?_
    · have hmem := ok_mem_modelOutputs_iff.2 ⟨p, hp, hout⟩
      exact List.mem_map.2 ⟨o.write, mem_writesOf.2 ⟨o, hmem, rfl⟩, hplace⟩
    · obtain ⟨o', ho', rfl⟩ := mem_writesOf.1 hw
      obtain ⟨p', _, hout'⟩ := ok_mem_modelOutputs_iff.1 ho'
      obtain rfl := platform_of_place hout hout' (hplace.trans hwplace.symm)
      rw [hout] at hout'
      cases hout'
      rfl
  rw [hsplit, List.flatMap_append, List.flatMap_cons, writesOf_append, writesOf_append,
    lastText_append, lastText_append, hlater, hown]
  rfl

theorem modelOutput_eq_ok_of_mem {site : Site} {platforms : List Platform} {schema : Project.Path}
    {p : Platform} (h : ∀ outcome ∈ r.modelOutputs site platforms t schema, ∃ o, outcome = .ok o)
    (hp : p ∈ platforms) : ∃ o, r.modelOutput site t schema p = .ok o := by
  simp only [modelOutput]
  rw [modelOutputs] at h
  cases hm : (t.document schema).bind Model.ofSchema with
  | error f =>
      rw [hm] at h
      obtain ⟨o, ho⟩ := h _ (List.mem_singleton_self _)
      cases ho
  | ok m =>
      rw [hm] at h
      exact h _ (List.mem_map_of_mem hp)

/-! ## What a run leaves -/

/-- What stands behind a run over some schemas: every file of theirs is there with the code of the
last schema that it belongs to. So all files have the codes of their own schemas if and only if no
two schemas share a file. -/
structure HoldsModels (r : GenerateRequest) (site : Site) (t : Tree) (schemas : List Project.Path)
    (platforms : List Platform) (u : Tree) : Prop where
  holdsLast : ∀ schema ∈ schemas, ∀ p ∈ platforms, ∃ o, r.modelOutput site t schema p = .ok o ∧
    ∃ last o', r.IsLast site t schemas p o.target.place last o' ∧
      u.read o.target = .ok (some o'.file.text)
  holdsOwn_iff : (∀ schema ∈ schemas, ∀ p ∈ platforms, ∀ o, r.modelOutput site t schema p = .ok o →
      u.read o.target = .ok (some o.file.text)) ↔
    ∀ p ∈ platforms, ∀ schema ∈ schemas, ∀ other ∈ schemas, ∀ o o',
      r.modelOutput site t schema p = .ok o → r.modelOutput site t other p = .ok o' →
        o.target.place = o'.target.place → schema = other

/-- The text of a file that was written is what was written at last at its place. -/
theorem read_of_writesAll {os : List (Outcome Output)} {e : Emission} (h : WritesAll t os e)
    (hbecomes : t.Becomes e.written e.tree) {o : Output} (ho : .ok o ∈ os) {text : String}
    (htext : lastText o.target.place (writesOf os) = some text) :
    e.tree.read o.target = .ok (some text) := by
  obtain ⟨old, hlook⟩ := h.found o ho
  obtain ⟨_, hfind⟩ := Tree.look_eq_some_iff.1 hlook
  have hget := (Tree.find_eq_entry hbecomes.wellFormed hfind).2
  rw [← h.written] at htext
  rw [hbecomes.written _ _ htext] at hget
  cases hget
  exact Tree.read_of_look hlook

theorem read_of_isLast {site : Site} {platforms : List Platform} {schemas : List Project.Path}
    {e : Emission} (h : WritesAll t (schemas.flatMap (r.modelOutputs site platforms t)) e)
    (hbecomes : t.Becomes e.written e.tree) {schema last : Project.Path}
    (hschema : schema ∈ schemas) {p : Platform} (hp : p ∈ platforms) {o o' : Output}
    (ho : r.modelOutput site t schema p = .ok o)
    (hlast : r.IsLast site t schemas p o.target.place last o') :
    e.tree.read o.target = .ok (some o'.file.text) := by
  have hmem : .ok o ∈ schemas.flatMap (r.modelOutputs site platforms t) :=
    List.mem_flatMap.2 ⟨schema, hschema, ok_mem_modelOutputs_iff.2 ⟨p, hp, ho⟩⟩
  exact read_of_writesAll h hbecomes hmem (lastText_writesOf hlast hp)

/-- Two schemas of one request whose codes are equal are one. -/
theorem eq_of_text (hn : t.NamesLackSlash) {source : Project.Path} {schemas : List Project.Path}
    (hschemas : t.schemaFiles source r.name = .ok schemas) {site : Site} {p : Platform}
    {schema other : Project.Path} (hschema : schema ∈ schemas) (hother : other ∈ schemas)
    {o o' : Output} (ho : r.modelOutput site t schema p = .ok o)
    (ho' : r.modelOutput site t other p = .ok o') (htext : o.file.text = o'.file.text) :
    schema = other := by
  rcases Tree.schemaFiles_cases hschemas with rfl | ⟨here, hlists⟩
  · rw [List.mem_singleton.1 hschema, List.mem_singleton.1 hother]
  · have hs := hlists schema hschema
    have hs' := hlists other hother
    obtain ⟨m, hout⟩ := outputFor_of_modelOutput ho
    obtain ⟨m', hout'⟩ := outputFor_of_modelOutput ho'
    rw [Model.sourceFile_eq_ok (outputFor_eq_ok hout).1,
      Model.sourceFile_eq_ok (outputFor_eq_ok hout').1] at htext
    exact hs.eq_of_name hs'
      (Model.eq_of_joined_code htext (hn.not_mem hs.present) (hn.not_mem hs'.present))

theorem holdsModels_of_writesAll (hn : t.NamesLackSlash) {source : Project.Path}
    {schemas : List Project.Path} (hschemas : t.schemaFiles source r.name = .ok schemas)
    {site : Site} {platforms : List Platform} {e : Emission}
    (h : WritesAll t (schemas.flatMap (r.modelOutputs site platforms t)) e)
    (hbecomes : t.Becomes e.written e.tree) :
    r.HoldsModels site t schemas platforms e.tree := by
  constructor
  · intro schema hschema p hp
    have hok : ∀ outcome ∈ r.modelOutputs site platforms t schema, ∃ o, outcome = .ok o :=
      fun outcome hmem => h.ok outcome (List.mem_flatMap.2 ⟨schema, hschema, hmem⟩)
    obtain ⟨o, ho⟩ := modelOutput_eq_ok_of_mem hok hp
    obtain ⟨last, o', hlast⟩ := exists_isLast hschema ho
    exact ⟨o, ho, last, o', hlast, read_of_isLast h hbecomes hschema hp ho hlast⟩
  · constructor
    · intro hown p hp schema hschema other hother o o' ho ho' hplace
      obtain ⟨last, written, hlast⟩ := exists_isLast hschema ho
      have htext := hown schema hschema p hp o ho
      have htext' := hown other hother p hp o' ho'
      rw [read_of_isLast h hbecomes hschema hp ho hlast] at htext
      rw [hplace] at hlast
      rw [read_of_isLast h hbecomes hother hp ho' hlast] at htext'
      refine eq_of_text hn hschemas hschema hother ho ho' ?_
      rw [Except.ok.injEq, Option.some.injEq] at htext htext'
      rw [← htext, ← htext']
    · intro hapart schema hschema p hp o ho
      obtain ⟨last, o', hlast⟩ := exists_isLast hschema ho
      obtain rfl := hapart p hp schema hschema last hlast.mem o o' ho hlast.output
        hlast.reaches.symm
      have hsame := hlast.output
      rw [ho] at hsame
      cases hsame
      exact read_of_isLast h hbecomes hschema hp ho hlast

end GenerateRequest

/-- What a run that may write over files leaves of the models, if it ends well. -/
theorem run_holdsModels {env : Environment} {t : Tree} {input : String} {words : List String}
    {r : GenerateRequest} (ht : t.WellFormed) (hn : t.NamesLackSlash)
    (hread : Request.read words = .ok (.generate r)) (htarget : r.target = .model)
    (hover : r.overwrite = true) (hdry : r.isDryRun = false)
    (hstatus : (run env t input words).status = 0) :
    ∃ config source schemas, Config.load t env.directory = .ok config ∧
      r.sourcePath ⟨env.directory, config⟩ = .ok source ∧
      t.schemaFiles source r.name = .ok schemas ∧
      r.HoldsModels ⟨env.directory, config⟩ t schemas
        (GenerateRequest.supported .model (config.platformsFor r.platform))
        (run env t input words).tree := by
  have hfault := fault_of_run hread hstatus
  rw [run_tree hread]
  rw [r.emission_eq ht, GenerateRequest.outputs] at hfault ⊢
  cases hplan : r.plan env.directory t with
  | error f =>
      rw [hplan] at hfault
      cases hfault
  | ok plan =>
      rw [hplan] at hfault
      obtain ⟨source, hplans⟩ := GenerateRequest.plans_of_plan hplan
      have hplatforms := GenerateRequest.eq_supported_of_chosenPlatforms hplans.platforms
      obtain ⟨schemas, hwork⟩ := GenerateRequest.exists_models_of_work htarget hplans.work
      have hschemas := hplans.work
      rw [hwork] at hschemas
      replace hschemas := GenerateRequest.schemaFiles_of_work hschemas
      obtain ⟨⟨base, config⟩, platforms, work⟩ := plan
      obtain rfl : base = env.directory := hplans.site
      obtain rfl : work = .models schemas := hwork
      rw [htarget] at hplatforms
      refine ⟨config, source, schemas, hplans.config, hplans.path, hschemas, ?_⟩
      rw [← hplatforms]
      exact GenerateRequest.holdsModels_of_writesAll hn hschemas
        (GenerateRequest.filesEmission_writesAll ht hover hdry hfault)
        (GenerateRequest.filesEmission_covers ht _).becomes

/-- A project with two schemas, the second of which has this title. -/
def modelsProject (title : String) : Tree where
  entries :=
    [(["work"], .directory),
      (["work", Config.fileName],
        .file (Json.indented (.record [("name", .str "a"), ("platforms", .list [.str "ios"])]))),
      (["work", "m"], .directory),
      (["work", "m", "a.json"],
        .file (Json.indented (.record [("type", .str "object"), ("title", .str "User")]))),
      (["work", "m", "b.json"],
        .file (Json.indented (.record [("type", .str "object"), ("title", .str title)])))]

/-- The words that ask for the models of its schemas. -/
def modelsWords : List String :=
  ["generate", "model", "--from", "m", "--output", "o", "--overwrite"]

/-- What the words ask for. -/
def modelsRequest : GenerateRequest := ⟨.model, none, some "m", none, some "o", true, false⟩

/-- The schemas of the project. -/
def modelsSchemas : List Project.Path :=
  [Path.ofSteps ["work", "m", "a.json"], Path.ofSteps ["work", "m", "b.json"]]

/-- The configuration of the project. -/
@[irreducible] def modelsConfig (title : String) : Config :=
  (Config.load (modelsProject title) projectPlace.directory).toOption.getD (.new "" [] none)

theorem wellFormed_modelsProject (title : String) : (modelsProject title).WellFormed := by
  refine Tree.wellFormed_of_entries fun entry hentry => ?_
  simp only [modelsProject, List.mem_cons, List.not_mem_nil, or_false] at hentry
  rcases hentry with rfl | rfl | rfl | rfl | rfl <;> rfl

theorem namesLackSlash_modelsProject (title : String) : (modelsProject title).NamesLackSlash := by
  intro entry hentry
  simp only [modelsProject, List.mem_cons, List.not_mem_nil, or_false] at hentry
  rcases hentry with rfl | rfl | rfl | rfl | rfl <;> dsimp only <;> decide

theorem look_modelsProject (title : String) :
    (modelsProject title).look (Path.ofSteps ["work", "m"]) =
      .ok (some (["work", "m"], .directory)) := by
  refine Tree.look_eq_some_iff.2 ⟨by decide, ?_⟩
  rw [Tree.find, if_neg (by decide +kernel)]
  rfl

theorem schemaFiles_modelsProject (title : String) :
    (modelsProject title).schemaFiles (Path.ofSteps ["work", "m"]) none = .ok modelsSchemas := by
  have hnames : ((modelsProject title).names ["work", "m"]).filter
      (fun name => Text.endsWith name ".json") = ["a.json", "b.json"] := rfl
  have hsorted : ["a.json", "b.json"].mergeSort (· ≤ ·) = ["a.json", "b.json"] :=
    List.mergeSort_of_pairwise (by simp)
  rw [Tree.schemaFiles, look_modelsProject]
  simp only [hnames, hsorted, bind, Except.bind]
  rfl

theorem load_modelsProject {title : String}
    (h : (Config.load (modelsProject title) projectPlace.directory).toOption.isSome = true) :
    Config.load (modelsProject title) projectPlace.directory = .ok (modelsConfig title) := by
  obtain ⟨config, hconfig⟩ := Option.isSome_iff_exists.1 h
  rw [modelsConfig, hconfig]
  exact eq_ok_of_toOption hconfig

/-- Where the code for the project goes. -/
def modelsSite (title : String) : Site := ⟨projectPlace.directory, modelsConfig title⟩

theorem plan_modelsProject {title : String}
    (hload : (Config.load (modelsProject title) projectPlace.directory).toOption.isSome = true)
    (hplatforms : (modelsRequest.chosenPlatforms (modelsSite title)).toOption = some [.ios]) :
    modelsRequest.plan projectPlace.directory (modelsProject title) =
      .ok ⟨modelsSite title, [.ios], .models modelsSchemas⟩ := by
  refine GenerateRequest.plan_eq_ok (load_modelsProject hload) rfl ?_ ?_
    (eq_ok_of_toOption hplatforms)
  · exact Tree.contains_of_look (look_modelsProject title)
  · exact bind_eq_ok_iff.2 ⟨modelsSchemas, schemaFiles_modelsProject title, rfl⟩

theorem status_modelsProject {title : String}
    (h : modelsRequest.plan projectPlace.directory (modelsProject title) =
      .ok ⟨modelsSite title, [.ios], .models modelsSchemas⟩)
    (hfault : (modelsRequest.modelsEmission (modelsSite title) [.ios] modelsSchemas
      (modelsProject title)).fault.isNone = true) :
    (run projectPlace (modelsProject title) "" modelsWords).status = 0 := by
  refine status_of_fault (r := modelsRequest) rfl ?_
  rw [GenerateRequest.emission, h]
  exact Option.isNone_iff_eq_none.1 hfault

/-- What the run over the schemas of the project leaves, where they have different titles. -/
theorem holdsModels_modelsProject :
    (modelsProject "Order").WellFormed ∧ (modelsProject "Order").NamesLackSlash ∧
      (run projectPlace (modelsProject "Order") "" modelsWords).status = 0 ∧
      ∃ config source schemas,
        Config.load (modelsProject "Order") projectPlace.directory = .ok config ∧
        modelsRequest.sourcePath ⟨projectPlace.directory, config⟩ = .ok source ∧
        (modelsProject "Order").schemaFiles source modelsRequest.name = .ok schemas ∧
        modelsRequest.HoldsModels ⟨projectPlace.directory, config⟩ (modelsProject "Order") schemas
          (GenerateRequest.supported .model (config.platformsFor modelsRequest.platform))
          (run projectPlace (modelsProject "Order") "" modelsWords).tree := by
  have ht := wellFormed_modelsProject "Order"
  have hn := namesLackSlash_modelsProject "Order"
  have hload : (Config.load (modelsProject "Order") projectPlace.directory).toOption.isSome =
      true := by
    decide +kernel
  have hstatus := status_modelsProject (plan_modelsProject hload (by decide +kernel))
    (by decide +kernel)
  exact ⟨ht, hn, hstatus, run_holdsModels ht hn (r := modelsRequest) rfl rfl rfl rfl hstatus⟩

/-- The file of a schema of the project. -/
def modelsOutput (title name : String) : Outcome Output :=
  modelsRequest.modelOutput (modelsSite title) (modelsProject title)
    (Path.ofSteps ["work", "m", name]) .ios

/-- Both schemas have one file, and their codes are two. -/
theorem modelsOutput_user : ∃ o o', modelsOutput "User" "a.json" = .ok o ∧
    modelsOutput "User" "b.json" = .ok o' ∧ o.target = o'.target ∧ o.file.text ≠ o'.file.text := by
  have htarget : (modelsOutput "User" "a.json").toOption.map (·.target) =
      (modelsOutput "User" "b.json").toOption.map (·.target) := by
    decide +kernel
  have htext : (modelsOutput "User" "a.json").toOption.map (·.file.text) ≠
      (modelsOutput "User" "b.json").toOption.map (·.file.text) := by
    decide +kernel
  obtain ⟨o, ho⟩ := exists_ok_of_isSome (x := modelsOutput "User" "a.json") (by decide +kernel)
  obtain ⟨o', ho'⟩ := exists_ok_of_isSome (x := modelsOutput "User" "b.json") (by decide +kernel)
  rw [ho, ho'] at htarget htext
  refine ⟨o, o', ho, ho', Option.some.inj htarget, ?_⟩
  exact fun h => htext (congrArg some h)

/-- Where both schemas have one title, one of them finds the code of the other in its file. -/
theorem not_holdsOwn_modelsProject :
    Request.read modelsWords = .ok (.generate modelsRequest) ∧
      (run projectPlace (modelsProject "User") "" modelsWords).status = 0 ∧
      Config.load (modelsProject "User") projectPlace.directory = .ok (modelsConfig "User") ∧
      modelsRequest.sourcePath (modelsSite "User") = .ok (Path.ofSteps ["work", "m"]) ∧
      (modelsProject "User").schemaFiles (Path.ofSteps ["work", "m"]) modelsRequest.name =
        .ok modelsSchemas ∧
      ¬ ∀ schema ∈ modelsSchemas,
        ∀ p ∈ GenerateRequest.supported .model
          ((modelsConfig "User").platformsFor modelsRequest.platform),
        ∀ o, modelsRequest.modelOutput (modelsSite "User") (modelsProject "User") schema p =
            .ok o →
          (run projectPlace (modelsProject "User") "" modelsWords).tree.read o.target =
            .ok (some o.file.text) := by
  have hload : (Config.load (modelsProject "User") projectPlace.directory).toOption.isSome =
      true := by
    decide +kernel
  have hplatforms : (modelsRequest.chosenPlatforms (modelsSite "User")).toOption =
      some [.ios] := by
    decide +kernel
  have hstatus := status_modelsProject (plan_modelsProject hload hplatforms) (by decide +kernel)
  refine ⟨rfl, hstatus, load_modelsProject hload, rfl, schemaFiles_modelsProject "User", ?_⟩
  intro hown
  have hios := GenerateRequest.eq_supported_of_chosenPlatforms (eq_ok_of_toOption hplatforms)
  have hmem : .ios ∈ GenerateRequest.supported .model
      ((modelsConfig "User").platformsFor modelsRequest.platform) := by
    change .ios ∈ GenerateRequest.supported modelsRequest.target
      ((modelsSite "User").config.platformsFor modelsRequest.platform)
    rw [← hios]
    exact List.mem_singleton_self _
  obtain ⟨o, o', ho, ho', htarget, htext⟩ := modelsOutput_user
  have hread := hown (Path.ofSteps ["work", "m", "a.json"]) (by decide) .ios hmem o ho
  have hread' := hown (Path.ofSteps ["work", "m", "b.json"]) (by decide) .ios hmem o' ho'
  rw [htarget, hread'] at hread
  exact htext (Option.some.inj (Except.ok.inj hread)).symm

end Command

end SpecForge
