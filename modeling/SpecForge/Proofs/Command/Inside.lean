import SpecForge.Proofs.Command.KeptFiles
import SpecForge.Proofs.Command.Single
import SpecForge.Proofs.Plugin.Files

/-!
# Files inside their directories

Models, components and the files of plugins are named after what a document or a command line says,
as it is written there. So a file may go anywhere, although it is joined to the directory for its
platform. It goes inside if its name does not lead out of a directory.
-/

namespace SpecForge.Command

open Activity Project

/-- Does a request name its files by texts as they are written? The others clean the names. -/
def Request.namesFreely : Request → Bool
  | .generate r => r.target == .model
  | .component _ => true
  | .plugin _ => true
  | _ => false

/-- The directory for a platform that a request asks for, and the name of a file for it. -/
inductive Request.GoesTo (base : Project.Path) (t : Tree) : Request → Project.Path → String → Prop
  | model {r : GenerateRequest} {site : Site} {platforms : List Platform}
      {schemas : List Project.Path} {schema dir : Project.Path} {m : Model} {p : Platform}
      (plan : r.plan base t = .ok ⟨site, platforms, .models schemas⟩) (listed : schema ∈ schemas)
      (document : (t.document schema).bind Model.ofSchema = .ok m) (platform : p ∈ platforms)
      (directory : Layout.directory site.base r.target p.name r.output
        (site.config.generationOf r.target) = .ok dir) :
      GoesTo base t (.generate r) dir (m.name ++ p.fileExtension)
  | component {r : ComponentRequest} {document : Value} {label : String} {component : Component}
      {dir : Project.Path} (given : r.given base t = .ok (document, label))
      (read : Component.ofSpec document = .ok component)
      (directory : Layout.componentDirectory base (Text.lower r.platform) component.category
        r.output = .ok dir) :
      GoesTo base t (.component r) dir (component.name ++ Platform.ios.fileExtension)
  | plugin {r : PluginRequest} {plugin : Plugin} {dir : Project.Path} {file : String × Lines}
      (read : Plugin.ofSpec (Plugin.templateSpec r.name r.template) = .ok plugin)
      (directory : Layout.pluginDirectory base (Text.lower r.platform) plugin.name r.output =
        .ok dir) (listed : file ∈ Plugin.Swift.files plugin) :
      GoesTo base t (.plugin r) dir file.1

section

variable {base : Project.Path} {t : Tree}

theorem goesTo_of_mem_outputs {r : GenerateRequest} (htarget : r.target = .model) {o : Output}
    (h : .ok o ∈ r.outputs base t) :
    ∃ dir name, Request.GoesTo base t (.generate r) dir name ∧ o.target = dir.join name := by
  obtain ⟨plan, hplan, h⟩ := GenerateRequest.exists_plan_of_mem_outputs h
  obtain ⟨source, hplans⟩ := GenerateRequest.plans_of_plan hplan
  obtain ⟨schemas, hwork⟩ := GenerateRequest.exists_models_of_work htarget hplans.work
  obtain ⟨site, platforms, work⟩ := plan
  obtain rfl : work = .models schemas := hwork
  obtain ⟨schema, hlisted, hmem⟩ := List.mem_flatMap.1 h
  obtain ⟨p, hp, hmodel⟩ := GenerateRequest.ok_mem_modelOutputs_iff.1 hmem
  obtain ⟨m, hm, hout⟩ := bind_eq_ok_iff.1 hmodel
  obtain ⟨hfile, hplace⟩ := GenerateRequest.outputFor_eq_ok hout
  obtain ⟨dir, hdir, htarget⟩ := GenerateRequest.directory_of_place hplace
  refine ⟨dir, _, .model hplan hlisted hm hp hdir, ?_⟩
  rw [htarget, Model.sourceFile_eq_ok hfile]

theorem goesTo_of_generated {r : ComponentRequest} {o : Output} (h : r.generated base t = .ok o) :
    ∃ dir name, Request.GoesTo base t (.component r) dir name ∧ o.target = dir.join name := by
  obtain ⟨⟨document, label⟩, hgiven, h⟩ := bind_eq_ok_iff.1 h
  obtain ⟨component, hread, h⟩ := bind_eq_ok_iff.1 h
  obtain ⟨_, _, h⟩ := bind_eq_ok_iff.1 h
  obtain ⟨file, hfile, h⟩ := bind_eq_ok_iff.1 h
  obtain ⟨dir, hdir, h⟩ := bind_eq_ok_iff.1 h
  cases h
  refine ⟨dir, _, .component hgiven hread hdir, ?_⟩
  rw [SourceFile.eq_of_ofLines hfile]

theorem goesTo_of_mem_pluginOutputs {r : PluginRequest} {os : List Output}
    (h : r.outputs base = .ok os) {o : Output} (ho : o ∈ os) :
    ∃ dir name, Request.GoesTo base t (.plugin r) dir name ∧ o.target = dir.join name := by
  obtain ⟨plugin, hread, h⟩ := bind_eq_ok_iff.1 h
  obtain ⟨_, _, h⟩ := bind_eq_ok_iff.1 h
  obtain ⟨dir, hdir, h⟩ := bind_eq_ok_iff.1 h
  obtain ⟨_, _, h⟩ := bind_eq_ok_iff.1 h
  obtain ⟨files, hfiles, h⟩ := bind_eq_ok_iff.1 h
  cases h
  obtain ⟨source, hsource, rfl⟩ := List.mem_map.1 ho
  obtain ⟨_, rfl⟩ := Plugin.sourceFiles_eq_ok_iff.1 hfiles
  obtain ⟨file, hfile, rfl⟩ := List.mem_map.1 hsource
  exact ⟨dir, file.1, .plugin hread hdir hfile, rfl⟩

end

/-- What a request that names its files freely has done to the files. -/
theorem exists_writes_of_run (env : Environment) {t : Tree} (ht : t.WellFormed) (input : String)
    {words : List String} {request : Request} (hr : Request.read words = .ok request)
    (hfree : request.namesFreely = true) :
    ∃ ws, t.Becomes ws (run env t input words).tree ∧ ∀ w ∈ ws, ∃ dir name,
      request.GoesTo env.directory t dir name ∧ w.place = (dir.join name).place := by
  cases request with
  | generate r =>
      have htarget : r.target = .model := beq_iff_eq.1 hfree
      have hcovers := GenerateRequest.filesEmission_covers (r := r) ht (r.outputs env.directory t)
      rw [← r.emission_eq ht] at hcovers
      rw [run_tree hr]
      refine ⟨_, hcovers.becomes, fun w hw => ?_⟩
      obtain ⟨o, ho, rfl⟩ := hcovers.mem w hw
      obtain ⟨dir, name, hgoes, htarget⟩ := goesTo_of_mem_outputs htarget ho
      exact ⟨dir, name, hgoes, congrArg Path.place htarget⟩
  | component r =>
      obtain ⟨hbecomes, hwritten⟩ := r.emission_becomes env.directory ht
      rw [run_tree_component hr]
      refine ⟨_, hbecomes, fun w hw => ?_⟩
      obtain ⟨o, ho, rfl⟩ := hwritten w hw
      obtain ⟨dir, name, hgoes, htarget⟩ := goesTo_of_generated ho
      exact ⟨dir, name, hgoes, congrArg Path.place htarget⟩
  | plugin r =>
      obtain ⟨hbecomes, hwritten⟩ := r.emission_becomes env.directory ht
      rw [run_tree_plugin hr]
      refine ⟨_, hbecomes, fun w hw => ?_⟩
      obtain ⟨os, hos, o, ho, rfl⟩ := hwritten w hw
      obtain ⟨dir, name, hgoes, htarget⟩ := goesTo_of_mem_pluginOutputs hos ho
      exact ⟨dir, name, hgoes, congrArg Path.place htarget⟩
  | _ => cases hfree

/-- Whatever file such a run has made or changed stands where its name leads from the directory for
its platform. It stands inside this directory if its name does not lead out of a directory. -/
theorem run_changes_inside (env : Environment) {t : Tree} (ht : t.WellFormed) (input : String)
    {words : List String} {request : Request} (hr : Request.read words = .ok request)
    (hfree : request.namesFreely = true) {place : List String}
    (hplace : place ∈ t.changedFiles (run env t input words).tree) :
    ∃ dir name, request.GoesTo env.directory t dir name ∧ place = (dir.join name).place ∧
      (Path.StaysBelow name → dir.place <+: place) := by
  obtain ⟨ws, hbecomes, hws⟩ := exists_writes_of_run env ht input hr hfree
  obtain ⟨w, hw, rfl⟩ := List.mem_map.1 (hbecomes.mem_places_of_changed hplace)
  obtain ⟨dir, name, hgoes, hw⟩ := hws w hw
  refine ⟨dir, name, hgoes, hw, fun hname => ?_⟩
  rw [hw]
  exact Path.staysBelow_iff.1 hname dir

/-- A run ends well, and at a place where nothing was there is a file behind it. -/
def MakesFile (env : Environment) (t : Tree) (words : List String) (place : List String) : Prop :=
  (run env t "" words).status = 0 ∧ t.get? place = none ∧
    (run env t "" words).tree.get? place ≠ none ∧
    (run env t "" words).tree.get? place ≠ some .directory

theorem MakesFile.mem_changedFiles {env : Environment} {t : Tree} {words place : List String}
    (h : MakesFile env t words place) : place ∈ t.changedFiles (run env t "" words).tree :=
  Tree.mem_changedFiles_of_new h.2.1 h.2.2.1 h.2.2.2

theorem changes_inside_projectWith :
    ∃ request dir name, Request.read projectWords = .ok request ∧ request.namesFreely = true ∧
      (projectWith "Order").WellFormed ∧
      MakesFile projectPlace (projectWith "Order") projectWords ["work", "o", "Order.swift"] ∧
      request.GoesTo projectPlace.directory (projectWith "Order") dir name ∧
      ["work", "o", "Order.swift"] = (dir.join name).place ∧
      (Path.StaysBelow name → dir.place <+: ["work", "o", "Order.swift"]) := by
  have ht := wellFormed_projectWith "Order"
  have hmakes : MakesFile projectPlace (projectWith "Order") projectWords
      ["work", "o", "Order.swift"] := by
    rw [MakesFile]
    decide +kernel
  obtain ⟨dir, name, hinside⟩ :=
    run_changes_inside projectPlace ht "" rfl rfl hmakes.mem_changedFiles
  exact ⟨_, dir, name, rfl, rfl, ht, hmakes, hinside⟩

/-- A title leads out of the directory that is asked for, and the file goes there. -/
theorem not_inside_projectWith :
    ∃ r, Request.read projectWords = .ok (.generate r) ∧
      (Request.generate r).namesFreely = true ∧ (projectWith "../User").WellFormed ∧
      MakesFile projectPlace (projectWith "../User") projectWords ["work", "User.swift"] ∧
      ∀ (p : Platform) generation dir, Layout.directory projectPlace.directory r.target p.name
        r.output generation = .ok dir → ¬ dir.place <+: ["work", "User.swift"] := by
  refine ⟨_, rfl, rfl, wellFormed_projectWith _, ?_, ?_⟩
  · rw [MakesFile]
    decide +kernel
  · intro p generation dir hdir
    have hasked : dir = Path.ofSteps ["work", "o"] := by
      cases hdir
      rfl
    rw [hasked]
    decide

end SpecForge.Command
