import SpecForge.Proofs.Command.Plan
import SpecForge.Proofs.Project.Schemas
import SpecForge.Proofs.Project.Target

/-!
# The files of a request

Which files a request comes to, in which order and with which texts, is known before anything is
written: the schemas that are read later are as they were at the beginning, for only source files
are written in between. So what a request does to the files is one run over this list.
-/

namespace SpecForge

theorem Model.sourceFile_eq_ok {p : Platform} {m : Model} {source : String} {file : SourceFile}
    (h : m.sourceFile p source = .ok file) :
    file = ⟨m.name ++ p.fileExtension, (m.code p source).joined⟩ :=
  SourceFile.eq_of_ofLines h

namespace Command

open Project

namespace GenerateRequest

variable {r : GenerateRequest} {t : Tree}

/-! ## One file -/

/-- The file was written. -/
structure Writes (r : GenerateRequest) (o : Output) (t : Tree) : Prop where
  written : (r.fileEmission o t).written = [o.write]
  absent : r.overwrite = false → t.contains o.target = .ok false
  becomes : t.Becomes [o.write] (r.fileEmission o t).tree
  found : (r.fileEmission o t).tree.look o.target = .ok (some (o.target.place, .file o.file.text))

/-- The file was not written, and if nothing stopped that was to be so. -/
structure Spares (r : GenerateRequest) (o : Output) (t : Tree) : Prop where
  written : (r.fileEmission o t).written = []
  prepares : t.Prepares (r.fileEmission o t).tree
  reason : (r.fileEmission o t).fault = none → r.overwrite = false ∨ r.isDryRun = true

theorem fileEmission_cases (r : GenerateRequest) (ht : t.WellFormed) (o : Output) :
    r.Writes o t ∨ r.Spares o t := by
  cases hc : t.contains o.target with
  | error f =>
      have he : r.fileEmission o t = .stopped t f := by
        rw [fileEmission, hc]
      right
      constructor
      · rw [he, Emission.stopped]
      · rw [he]
        exact .refl ht
      · rw [he]
        exact fun h => by cases h
  | ok found =>
      by_cases hkeep : ((found && !r.overwrite) || r.isDryRun) = true
      · have he : r.fileEmission o t = .nothing t := by
          simp only [fileEmission, hc, hkeep, if_true]
        right
        constructor
        · rw [he, Emission.nothing]
        · rw [he]
          exact .refl ht
        · intro _
          simp only [Bool.or_eq_true, Bool.and_eq_true, Bool.not_eq_true'] at hkeep
          exact hkeep.imp And.right id
      · cases hw : (t.write o.target o.file.text).fault with
        | none =>
            have he : r.fileEmission o t =
                ⟨(t.write o.target o.file.text).tree, [o.write], none⟩ := by
              simp only [fileEmission, hc, hkeep, hw, Bool.false_eq_true, if_false]
            left
            constructor
            · rw [he]
            · intro hno
              simp only [hno, Bool.not_false, Bool.and_true, Bool.or_eq_true, not_or,
                Bool.not_eq_true] at hkeep
              rw [hkeep.1] at hc
              exact hc
            · rw [he]
              exact Tree.write_becomes ht hw
            · rw [he]
              exact Tree.look_write ht hw
        | some f =>
            have he : r.fileEmission o t = .stopped (t.write o.target o.file.text).tree f := by
              simp only [fileEmission, hc, hkeep, hw, Bool.false_eq_true, if_false]
            right
            constructor
            · rw [he, Emission.stopped]
            · rw [he]
              exact Tree.write_prepares ht hw
            · rw [he]
              exact fun h => by cases h

theorem fileEmission_dry (h : r.isDryRun = true) (o : Output) (t : Tree) :
    (r.fileEmission o t).tree = t := by
  rw [fileEmission]
  split
  · rfl
  · rw [h, Bool.or_true]
    rfl

/-! ## Several files -/

/-- The files have become what they are by the writes, and each write is one of the files. -/
structure Covers (t : Tree) (e : Emission) (os : List (Outcome Output)) : Prop where
  becomes : t.Becomes e.written e.tree
  mem : ∀ w ∈ e.written, ∃ o, .ok o ∈ os ∧ w = o.write

theorem Covers.andThen {e : Emission} {next : Tree → Emission} {os rest : List (Outcome Output)}
    (h : Covers t e os) (hnext : e.tree.WellFormed → Covers e.tree (next e.tree) rest) :
    Covers t (e.andThen next) (os ++ rest) := by
  cases hf : e.fault with
  | some f =>
      rw [Emission.andThen_of_fault hf]
      refine ⟨h.becomes, fun w hw => ?_⟩
      obtain ⟨o, ho, hwrite⟩ := h.mem w hw
      exact ⟨o, List.mem_append_left rest ho, hwrite⟩
  | none =>
      have hrest := hnext h.becomes.wellFormed
      rw [Emission.andThen_of_none hf]
      refine ⟨h.becomes.trans hrest.becomes, fun w hw => ?_⟩
      rcases List.mem_append.1 hw with hw | hw
      · obtain ⟨o, ho, hwrite⟩ := h.mem w hw
        exact ⟨o, List.mem_append_left rest ho, hwrite⟩
      · obtain ⟨o, ho, hwrite⟩ := hrest.mem w hw
        exact ⟨o, List.mem_append_right os ho, hwrite⟩

theorem fileEmission_covers (ht : t.WellFormed) (o : Output) :
    Covers t (r.fileEmission o t) [.ok o] := by
  rcases fileEmission_cases r ht o with hw | hs
  · constructor
    · rw [hw.written]
      exact hw.becomes
    · rw [hw.written]
      intro w hmem
      exact ⟨o, List.mem_singleton_self _, List.mem_singleton.1 hmem⟩
  · constructor
    · rw [hs.written]
      exact hs.prepares.becomes
    · rw [hs.written]
      exact fun w hmem => absurd hmem List.not_mem_nil

theorem filesEmission_covers (ht : t.WellFormed) (os : List (Outcome Output)) :
    Covers t (r.filesEmission os t) os := by
  induction os generalizing t with
  | nil => exact ⟨.refl ht, fun w hw => absurd hw List.not_mem_nil⟩
  | cons first rest ih =>
      cases first with
      | error f => exact ⟨.refl ht, fun w hw => absurd hw List.not_mem_nil⟩
      | ok o => exact (fileEmission_covers ht o).andThen ih

theorem filesEmission_append (os rest : List (Outcome Output)) (t : Tree) :
    r.filesEmission (os ++ rest) t = (r.filesEmission os t).andThen (r.filesEmission rest) := by
  induction os generalizing t with
  | nil => exact (Emission.nothing_andThen t _).symm
  | cons first os ih =>
      cases first with
      | error f => rfl
      | ok o =>
          rw [List.cons_append, filesEmission, filesEmission, Emission.andThen_assoc]
          exact Emission.andThen_congr (ih _)

theorem filesEmission_dry (h : r.isDryRun = true) (os : List (Outcome Output)) (t : Tree) :
    (r.filesEmission os t).tree = t := by
  induction os with
  | nil => rfl
  | cons first os ih =>
      cases first with
      | error f => rfl
      | ok o =>
          have hfirst := fileEmission_dry h o t
          rw [filesEmission]
          cases hf : (r.fileEmission o t).fault with
          | some f => rw [Emission.andThen_of_fault hf, hfirst]
          | none =>
              rw [Emission.andThen_of_none hf, hfirst]
              exact ih

/-! ## All files of a request -/

theorem outputFor_eq_ok {site : Site} {sourceFile : Platform → Outcome SourceFile} {p : Platform}
    {o : Output} (h : r.outputFor site sourceFile p = .ok o) :
    sourceFile p = .ok o.file ∧ r.place site p o.file = .ok o.target := by
  obtain ⟨file, hfile, h⟩ := bind_eq_ok_iff.1 h
  cases hplace : r.place site p file with
  | error f =>
      rw [hplace] at h
      cases h
  | ok target =>
      rw [hplace] at h
      cases h
      exact ⟨hfile, hplace⟩

theorem directory_of_place {site : Site} {p : Platform} {file : SourceFile} {target : Project.Path}
    (h : r.place site p file = .ok target) :
    ∃ dir, Layout.directory site.base r.target p.name r.output
        (site.config.generationOf r.target) = .ok dir ∧ target = dir.join file.name := by
  rw [place] at h
  cases hdir : Layout.directory site.base r.target p.name r.output
      (site.config.generationOf r.target) with
  | error f =>
      rw [hdir] at h
      cases h
  | ok dir =>
      rw [hdir] at h
      cases h
      exact ⟨dir, rfl, rfl⟩

/-- The file of the model of a schema for a platform. -/
def modelOutput (r : GenerateRequest) (site : Site) (t : Tree) (schema : Project.Path)
    (p : Platform) : Outcome Output :=
  ((t.document schema).bind Model.ofSchema).bind fun m =>
    r.outputFor site (m.sourceFile · schema.name) p

/-- The files of the model of a schema. -/
def modelOutputs (r : GenerateRequest) (site : Site) (platforms : List Platform) (t : Tree)
    (schema : Project.Path) : List (Outcome Output) :=
  match (t.document schema).bind Model.ofSchema with
  | .error f => [.error f]
  | .ok m => platforms.map (r.outputFor site (m.sourceFile · schema.name))

theorem ok_mem_modelOutputs_iff {site : Site} {platforms : List Platform} {schema : Project.Path}
    {o : Output} : .ok o ∈ r.modelOutputs site platforms t schema ↔
      ∃ p ∈ platforms, r.modelOutput site t schema p = .ok o := by
  simp only [modelOutput, modelOutputs]
  cases (t.document schema).bind Model.ofSchema with
  | error f =>
      constructor
      · intro h
        cases List.mem_singleton.1 h
      · rintro ⟨_, _, h⟩
        cases h
  | ok m => exact List.mem_map

theorem outputFor_of_modelOutput {site : Site} {schema : Project.Path} {p : Platform} {o : Output}
    (h : r.modelOutput site t schema p = .ok o) :
    ∃ m : Model, r.outputFor site (m.sourceFile · schema.name) p = .ok o := by
  obtain ⟨m, _, hout⟩ := bind_eq_ok_iff.1 h
  exact ⟨m, hout⟩

/-- The file of a model goes to a place that ends as the files of its platform do. -/
theorem place_of_modelOutput {site : Site} {schema : Project.Path} {p : Platform} {o : Output}
    (h : r.modelOutput site t schema p = .ok o) :
    ∃ here stem, o.target.place = here ++ [stem ++ p.fileExtension] := by
  obtain ⟨m, hout⟩ := outputFor_of_modelOutput h
  obtain ⟨hfile, hplace⟩ := outputFor_eq_ok hout
  obtain ⟨dir, _, htarget⟩ := directory_of_place hplace
  have hname : o.file.name = m.name ++ p.fileExtension := by
    rw [Model.sourceFile_eq_ok hfile]
  rw [htarget, hname]
  exact Path.place_join_fileExtension dir m.name p

/-- The files of a plan. -/
def planOutputs (r : GenerateRequest) (plan : Plan) (t : Tree) : List (Outcome Output) :=
  match plan.work with
  | .models schemas => schemas.flatMap (r.modelOutputs plan.site plan.platforms t)
  | .client sourceFile => plan.platforms.map (r.outputFor plan.site sourceFile)
  | .theme sourceFile => plan.platforms.map (r.outputFor plan.site sourceFile)

/-- The files of a request. -/
def outputs (r : GenerateRequest) (base : Project.Path) (t : Tree) : List (Outcome Output) :=
  match r.plan base t with
  | .error f => [.error f]
  | .ok plan => r.planOutputs plan t

theorem exists_plan_of_mem_outputs {base : Project.Path} {o : Output}
    (h : .ok o ∈ r.outputs base t) :
    ∃ plan, r.plan base t = .ok plan ∧ .ok o ∈ r.planOutputs plan t := by
  rw [outputs] at h
  cases hplan : r.plan base t with
  | error f =>
      rw [hplan] at h
      cases List.mem_singleton.1 h
  | ok plan =>
      rw [hplan] at h
      exact ⟨plan, rfl, h⟩

theorem isSource_of_mem_modelOutputs {site : Site} {platforms : List Platform}
    {schema : Project.Path} {o : Output} (h : .ok o ∈ r.modelOutputs site platforms t schema) :
    o.write.IsSource := by
  obtain ⟨p, _, hout⟩ := ok_mem_modelOutputs_iff.1 h
  obtain ⟨here, stem, hplace⟩ := place_of_modelOutput hout
  exact ⟨here, stem, p, hplace⟩

/-- Schemas that were found in a directory are read as they were before anything was written. -/
theorem modelsEmission_eq {site : Site} {platforms : List Platform} {source : Project.Path}
    {here : List String} {schemas : List Project.Path} (hs : ∀ p ∈ schemas, t.Lists source here p)
    {u : Tree} {ws : List Write} (h : t.Becomes ws u) (hws : ∀ w ∈ ws, w.IsSource) :
    r.modelsEmission site platforms schemas u =
      r.filesEmission (schemas.flatMap (r.modelOutputs site platforms t)) u := by
  induction schemas generalizing u ws with
  | nil => rfl
  | cons schema rest ih =>
      rw [List.forall_mem_cons] at hs
      have hmem : ∀ o, .ok o ∈ r.modelOutputs site platforms t schema → o.write.IsSource :=
        fun o ho => isSource_of_mem_modelOutputs ho
      rw [List.flatMap_cons, filesEmission_append, modelsEmission, h.document_of_lists hws hs.1]
      rw [modelOutputs] at hmem ⊢
      cases hm : (t.document schema).bind Model.ofSchema with
      | error f => rfl
      | ok m =>
          rw [hm] at hmem
          have hcovers := filesEmission_covers (r := r) h.wellFormed
            (platforms.map (r.outputFor site (m.sourceFile · schema.name)))
          -- only source files were written, so the rest of the schemas are still the same
          refine Emission.andThen_congr (ih hs.2 (h.trans hcovers.becomes) fun w hw => ?_)
          rcases List.mem_append.1 hw with hw | hw
          · exact hws w hw
          · obtain ⟨o, ho, rfl⟩ := hcovers.mem w hw
            exact hmem o ho

/-- A plan is carried out by one run over its files. -/
theorem planEmission_eq (ht : t.WellFormed) {base source : Project.Path} {plan : Plan}
    (h : r.Plans base t plan source) :
    r.planEmission plan t = r.filesEmission (r.planOutputs plan t) t := by
  obtain ⟨site, platforms, work⟩ := plan
  cases work with
  | client sourceFile => rfl
  | theme sourceFile => rfl
  | models schemas =>
      rcases Tree.schemaFiles_cases (schemaFiles_of_work h.work) with rfl | ⟨here, hlists⟩
      · rw [planEmission, planOutputs]
        dsimp only
        rw [List.flatMap_singleton, modelsEmission, modelOutputs]
        cases (t.document source).bind Model.ofSchema with
        | error f => rfl
        | ok m => exact Emission.andThen_nothing _
      · exact modelsEmission_eq hlists (.refl ht) fun w hw => absurd hw List.not_mem_nil

/-- A request does to the files what one run over its files does. -/
theorem emission_eq (r : GenerateRequest) (ht : t.WellFormed) (base : Project.Path) :
    r.emission base t = r.filesEmission (r.outputs base t) t := by
  rw [emission, outputs]
  cases hplan : r.plan base t with
  | error f => rfl
  | ok plan =>
      obtain ⟨source, hplans⟩ := plans_of_plan hplan
      exact planEmission_eq ht hplans

end GenerateRequest

end Command

end SpecForge
