import SpecForge.Proofs.Command.Emission
import SpecForge.Proofs.Outcome

/-!
# The plan of a request for code

Before anything is written a request finds out for which platforms and from which specifications
code is to be generated. This depends on the files as they are at the beginning, and changes
nothing.
-/

namespace SpecForge.Command

open Activity Project

/-- What is generated: the models of schema files, or one file for each platform. -/
inductive Work where
  | models (schemas : List Project.Path)
  | client (sourceFile : Platform → Outcome SourceFile)
  | theme (sourceFile : Platform → Outcome SourceFile)

/-- What is generated, where and for which platforms. -/
structure Plan where
  site : Site
  platforms : List Platform
  work : Work

/-- What is said at the end, given how many files were written. -/
def Work.summary (written : Nat) : Work → String
  | .models schemas => s!"Generated {written} file(s) from {schemas.length} model(s)"
  | .client _ => s!"Generated {written} API client file(s)"
  | .theme _ => s!"Generated {written} theme file(s)"

namespace GenerateRequest

/-- The platforms that code is generated for. -/
def chosenPlatforms (r : GenerateRequest) (site : Site) : Outcome (List Platform) :=
  let names := site.config.platformsFor r.platform
  if names.isEmpty then .error (.spec .noPlatforms)
  else if (supported r.target names).isEmpty then .error (.noGenerator r.target.name names)
  else .ok (supported r.target names)

/-- What is generated from the specifications at a path. -/
def work (r : GenerateRequest) (site : Site) (source : Project.Path) (t : Tree) : Outcome Work :=
  match r.target with
  | .model => (t.schemaFiles source r.name).bind fun schemas =>
    if schemas.isEmpty then .error (.spec (.noSchemas source.text)) else .ok (.models schemas)
  | .apiClient => ((t.document source).bind Api.ofDocument).bind fun api =>
    .ok (.client fun p => api.sourceFile p source.name)
  | .theme => ((t.document source).bind (Theme.ofTokens · site.config.themeName)).bind fun theme =>
    .ok (.theme fun p => theme.sourceFile p source.name)

/-- The specifications, if there is anything at their path. -/
def presentSource (r : GenerateRequest) (site : Site) (t : Tree) : Outcome Project.Path :=
  (r.sourcePath site).bind fun path => (t.contains path).bind fun found =>
    if found then .ok path else .error (.spec (.noFile (sourceTitle r.target) path.text))

/-- The plan for the specifications at a path. -/
def planFrom (r : GenerateRequest) (site : Site) (source : Project.Path) (t : Tree) :
    Outcome Plan :=
  (r.work site source t).bind fun work =>
    (r.chosenPlatforms site).bind fun platforms => .ok ⟨site, platforms, work⟩

/-- The plan of a request. -/
def plan (r : GenerateRequest) (base : Project.Path) (t : Tree) : Outcome Plan :=
  (Config.load t base).bind fun config =>
    (r.presentSource ⟨base, config⟩ t).bind fun source => r.planFrom ⟨base, config⟩ source t

/-- Where a plan comes from. -/
structure Plans (r : GenerateRequest) (base : Project.Path) (t : Tree) (plan : Plan)
    (source : Project.Path) : Prop where
  site : plan.site.base = base
  config : Config.load t plan.site.base = .ok plan.site.config
  path : r.sourcePath plan.site = .ok source
  platforms : r.chosenPlatforms plan.site = .ok plan.platforms
  work : r.work plan.site source t = .ok plan.work

theorem plans_of_plan {r : GenerateRequest} {base : Project.Path} {t : Tree} {plan : Plan}
    (h : r.plan base t = .ok plan) : ∃ source, r.Plans base t plan source := by
  obtain ⟨config, hconfig, h⟩ := bind_eq_ok_iff.1 h
  obtain ⟨source, hpresent, h⟩ := bind_eq_ok_iff.1 h
  obtain ⟨work, hwork, h⟩ := bind_eq_ok_iff.1 h
  obtain ⟨platforms, hplatforms, h⟩ := bind_eq_ok_iff.1 h
  obtain ⟨path, hpath, hpresent⟩ := bind_eq_ok_iff.1 hpresent
  obtain ⟨found, _, hpresent⟩ := bind_eq_ok_iff.1 hpresent
  split at hpresent
  · cases hpresent
    cases h
    exact ⟨source, rfl, hconfig, hpath, hplatforms, hwork⟩
  · cases hpresent

theorem eq_supported_of_chosenPlatforms {r : GenerateRequest} {site : Site}
    {platforms : List Platform} (h : r.chosenPlatforms site = .ok platforms) :
    platforms = supported r.target (site.config.platformsFor r.platform) := by
  rw [chosenPlatforms] at h
  split at h
  · cases h
  · split at h
    · cases h
    · cases h
      rfl

theorem exists_models_of_work {r : GenerateRequest} {site : Site} {source : Project.Path} {t : Tree}
    {work : Work} (htarget : r.target = .model) (h : r.work site source t = .ok work) :
    ∃ schemas, work = .models schemas := by
  rw [GenerateRequest.work, htarget] at h
  obtain ⟨schemas, _, h⟩ := bind_eq_ok_iff.1 h
  split at h
  · cases h
  · cases h
    exact ⟨schemas, rfl⟩

theorem schemaFiles_of_work {r : GenerateRequest} {site : Site} {source : Project.Path} {t : Tree}
    {schemas : List Project.Path} (h : r.work site source t = .ok (.models schemas)) :
    t.schemaFiles source r.name = .ok schemas := by
  rw [work] at h
  split at h
  · obtain ⟨found, hfound, h⟩ := bind_eq_ok_iff.1 h
    split at h
    · cases h
    · cases h
      exact hfound
  · obtain ⟨_, _, h⟩ := bind_eq_ok_iff.1 h
    cases h
  · obtain ⟨_, _, h⟩ := bind_eq_ok_iff.1 h
    cases h

theorem plan_eq_ok {r : GenerateRequest} {base source : Project.Path} {t : Tree} {config : Config}
    {platforms : List Platform} {work : Work} (hconfig : Config.load t base = .ok config)
    (hpath : r.sourcePath ⟨base, config⟩ = .ok source) (hpresent : t.contains source = .ok true)
    (hwork : r.work ⟨base, config⟩ source t = .ok work)
    (hplatforms : r.chosenPlatforms ⟨base, config⟩ = .ok platforms) :
    r.plan base t = .ok ⟨⟨base, config⟩, platforms, work⟩ := by
  refine bind_eq_ok_iff.2 ⟨config, hconfig, bind_eq_ok_iff.2 ⟨source, ?_, ?_⟩⟩
  · exact bind_eq_ok_iff.2 ⟨source, hpath, bind_eq_ok_iff.2 ⟨true, hpresent, rfl⟩⟩
  · exact bind_eq_ok_iff.2 ⟨work, hwork, bind_eq_ok_iff.2 ⟨platforms, hplatforms, rfl⟩⟩

/-- The emission of a plan. -/
def planEmission (r : GenerateRequest) (plan : Plan) : Tree → Emission :=
  match plan.work with
  | .models schemas => r.modelsEmission plan.site plan.platforms schemas
  | .client sourceFile => r.filesEmission (plan.platforms.map (r.outputFor plan.site sourceFile))
  | .theme sourceFile => r.filesEmission (plan.platforms.map (r.outputFor plan.site sourceFile))

/-- The emission of a request. -/
def emission (r : GenerateRequest) (base : Project.Path) (t : Tree) : Emission :=
  match r.plan base t with
  | .error f => .stopped t f
  | .ok plan => r.planEmission plan t

/-! ## The command follows the plan -/

/-- How a request ends that has this emission. -/
def ending (e : Emission) : Except Stop Unit :=
  match e.fault with
  | none => .ok ()
  | some f => .error (.failed f)

/-- The session behind a plan: the files are those of the emission, and if something was to be
written and nothing stopped, the last thing said is how many files were written. -/
structure Concluded (r : GenerateRequest) (plan : Plan) (e : Emission) (s : Session) : Prop where
  tree : s.tree = e.tree
  said : e.fault = none → r.isDryRun = false →
    s.notices.head? = some (.success (plan.work.summary e.written.length))

/-- How a request ends that has this plan. -/
def planEnding (r : GenerateRequest) (t : Tree) : Outcome Plan → Except Stop Unit
  | .error f => .error (.failed f)
  | .ok plan => ending (r.planEmission plan t)

/-- The session behind a request that has this plan. -/
def PlanConcluded (r : GenerateRequest) (t : Tree) : Outcome Plan → Session → Prop
  | .error _ => Has t
  | .ok plan => r.Concluded plan (r.planEmission plan t)

/-- With these files the action does what is planned, or stops where there is no plan. -/
def Follows (r : GenerateRequest) (x : Activity Unit) (t : Tree) (o : Outcome Plan) : Prop :=
  ∀ s, Has t s → x.Ends s (r.planEnding t o) (r.PlanConcluded t o)

section

variable {α : Type} {r : GenerateRequest} {x : Activity α} {f : α → Activity Unit} {t : Tree}

theorem follows_fail (failure : Failure) : r.Follows (fail failure) t (.error failure) :=
  fun _ hs => ends_fail hs

theorem Follows.bind {o : Outcome α} {g : α → Outcome Plan}
    (hx : ∀ s, Has t s → x.Ends s (stopping o) (Has t)) (hf : ∀ a, r.Follows (f a) t (g a)) :
    r.Follows (x >>= f) t (o.bind g) := by
  intro s hs
  have hfirst := hx s hs
  cases o with
  | error failure => exact hfirst.bind_error
  | ok a => exact hfirst.bind (hf a)

theorem Follows.ofOutcome_bind {o : Outcome α} {g : α → Outcome Plan}
    (hf : ∀ a, r.Follows (f a) t (g a)) : r.Follows (ofOutcome o >>= f) t (o.bind g) :=
  Follows.bind (fun _ hs => ends_ofOutcome o hs) hf

theorem Follows.files_bind {f : Tree → Activity Unit} {o : Outcome Plan}
    (hf : r.Follows (f t) t o) : r.Follows (files >>= f) t o := by
  intro s hs
  have hfiles : files.Ends s (.ok t) (Has t) := by
    rw [← show s.tree = t from hs]
    exact ends_files rfl
  exact hfiles.bind hf

theorem Follows.say_bind {n : Notice} {f : Unit → Activity Unit} {o : Outcome Plan}
    (hf : r.Follows (f ()) t o) : r.Follows (say n >>= f) t o := by
  intro s hs
  have hsaid : (say n).Ends s (.ok ()) (Has t) := ends_say hs
  exact hsaid.bind hf

/-- The last steps of a request: the files are written, and it is said how many there were. -/
theorem follows_plan (plan : Plan) {x : Activity Nat} (hx : Does x (r.planEmission plan))
    (preview : String) :
    r.Follows (x >>= fun n =>
      if r.isDryRun then success preview else success (plan.work.summary n)) t (.ok plan) := by
  intro s hs
  have hwrite := hx s
  rw [show s.tree = t from hs, Emission.count] at hwrite
  rw [planEnding, ending]
  cases hf : (r.planEmission plan t).fault with
  | some f =>
      rw [hf] at hwrite
      refine hwrite.bind_error.mono fun s' hs => ⟨hs, ?_⟩
      rw [hf]
      exact fun h => by cases h
  | none =>
      rw [hf] at hwrite
      refine hwrite.bind fun s' hs => ?_
      by_cases hdry : r.isDryRun = true
      · rw [if_pos hdry]
        refine ends_say ⟨hs, fun _ hno => ?_⟩
        rw [hdry] at hno
        cases hno
      · rw [if_neg hdry]
        exact ends_say ⟨hs, fun _ _ => rfl⟩

end

theorem warnOf_ends (names : List String) {t : Tree} {s : Session} (hs : Has t s) :
    (warnOf names).Ends s (.ok ()) (Has t) := by
  induction names generalizing s with
  | nil => exact ends_pure hs
  | cons name rest ih =>
      have hsaid : (warn s!"Skipping unsupported platform: {name}").Ends s (.ok ()) (Has t) :=
        ends_say hs
      exact hsaid.bind fun _ hs => ih hs

theorem platforms_ends (r : GenerateRequest) (site : Site) {t : Tree} {s : Session}
    (hs : Has t s) : (r.platforms site).Ends s (stopping (r.chosenPlatforms site)) (Has t) := by
  rw [GenerateRequest.platforms, chosenPlatforms]
  dsimp only
  by_cases hnames : (site.config.platformsFor r.platform).isEmpty = true
  · rw [if_pos hnames, if_pos hnames]
    exact ends_fail hs
  · rw [if_neg hnames, if_neg hnames]
    refine (warnOf_ends _ hs).bind fun s₁ hs => ?_
    split
    · exact ends_fail hs
    · exact ends_pure hs

theorem existingSource_ends (r : GenerateRequest) (site : Site) {t : Tree} {s : Session}
    (hs : Has t s) :
    (r.existingSource site).Ends s (stopping (r.presentSource site t)) (Has t) := by
  have hpath := ends_ofOutcome (r.sourcePath site) hs
  refine hpath.bind_stopping fun path s₁ _ hs => ?_
  refine (ends_exists? path hs).bind_stopping fun found s₂ _ hs => ?_
  split
  · exact ends_pure hs
  · exact ends_fail hs

theorem performModel_follows (r : GenerateRequest) (site : Site) (source : Project.Path) (t : Tree)
    (htarget : r.target = .model) :
    r.Follows (r.performModel site source) t (r.planFrom site source t) := by
  have hplan : r.planFrom site source t = (t.schemaFiles source r.name).bind fun schemas =>
      if schemas.isEmpty then .error (.spec (.noSchemas source.text))
      else (r.chosenPlatforms site).bind fun platforms =>
        .ok ⟨site, platforms, .models schemas⟩ := by
    rw [planFrom, work, htarget]
    dsimp only
    cases t.schemaFiles source r.name with
    | error f => rfl
    | ok schemas =>
        by_cases hempty : schemas.isEmpty = true <;> simp only [Except.bind, hempty] <;> rfl
  rw [hplan]
  refine .files_bind (.ofOutcome_bind fun schemas => ?_)
  split
  · exact follows_fail _
  · refine .bind (fun s hs => platforms_ends r site hs) fun platforms => ?_
    exact follows_plan ⟨site, platforms, .models schemas⟩
      (emitModels_does r site platforms schemas) _

theorem performApi_follows (r : GenerateRequest) (site : Site) (source : Project.Path) (t : Tree)
    (htarget : r.target = .apiClient) :
    r.Follows (r.performApi site source) t (r.planFrom site source t) := by
  have hplan : r.planFrom site source t = ((t.document source).bind Api.ofDocument).bind fun api =>
      (r.chosenPlatforms site).bind fun platforms =>
        .ok ⟨site, platforms, .client (api.sourceFile · source.name)⟩ := by
    rw [planFrom, work, htarget]
    dsimp only
    cases (t.document source).bind Api.ofDocument <;> rfl
  rw [hplan]
  refine .files_bind (.ofOutcome_bind fun api => ?_)
  refine .bind (fun s hs => platforms_ends r site hs) fun platforms => .say_bind ?_
  exact follows_plan ⟨site, platforms, .client (api.sourceFile · source.name)⟩
    (emit_does r site _ platforms) _

theorem performTheme_follows (r : GenerateRequest) (site : Site) (source : Project.Path) (t : Tree)
    (htarget : r.target = .theme) :
    r.Follows (r.performTheme site source) t (r.planFrom site source t) := by
  have hplan : r.planFrom site source t =
      ((t.document source).bind (Theme.ofTokens · site.config.themeName)).bind fun theme =>
        (r.chosenPlatforms site).bind fun platforms =>
          .ok ⟨site, platforms, .theme (theme.sourceFile · source.name)⟩ := by
    rw [planFrom, work, htarget]
    dsimp only
    cases (t.document source).bind (Theme.ofTokens · site.config.themeName) <;> rfl
  rw [hplan]
  refine .files_bind (.ofOutcome_bind fun theme => ?_)
  refine .bind (fun s hs => platforms_ends r site hs) fun platforms => .say_bind ?_
  exact follows_plan ⟨site, platforms, .theme (theme.sourceFile · source.name)⟩
    (emit_does r site _ platforms) _

/-- A request does what is planned for it. -/
theorem perform_follows (r : GenerateRequest) (base : Project.Path) (t : Tree) :
    r.Follows (r.perform base) t (r.plan base t) := by
  refine .files_bind (.ofOutcome_bind fun config => ?_)
  refine .bind (fun s hs => existingSource_ends r ⟨base, config⟩ hs) fun source => ?_
  cases htarget : r.target with
  | model => exact performModel_follows r ⟨base, config⟩ source t htarget
  | apiClient => exact performApi_follows r ⟨base, config⟩ source t htarget
  | theme => exact performTheme_follows r ⟨base, config⟩ source t htarget

end GenerateRequest

end SpecForge.Command
