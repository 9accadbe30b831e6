import SpecForge.Proofs.Command.Outputs
import SpecForge.Proofs.Command.Report
import SpecForge.Proofs.Command.Single
import SpecForge.Proofs.Theme.Printable

/-!
# Commands that refuse

A command refuses what the document, the configuration or the request does not allow. It may also
stop for other reasons, which come from the system or from a number that has no spelling. Changing
files and spelling sources never refuses, so what is refused is refused before any file is changed.
-/

namespace SpecForge

namespace Project

theorem Path.neverRefuses_resolved (p : Path) : NeverRefuses p.resolved := by
  rw [resolved]
  split
  · exact neverRefuses_error rfl
  · exact neverRefuses_ok _

theorem Layout.neverRefuses_resolvedOr (chosen : Option Path) (usual : Path) :
    NeverRefuses (resolvedOr chosen (.ok usual)) := by
  cases chosen with
  | none => exact neverRefuses_ok usual
  | some p => exact p.neverRefuses_resolved

/-! ## Changing files -/

namespace Tree

theorem neverRefuses_look (t : Tree) (p : Path) : NeverRefuses (t.look p) := by
  rw [look]
  split
  · exact neverRefuses_ok _
  · split
    · exact neverRefuses_ok _
    · exact neverRefuses_error rfl
    · exact neverRefuses_ok _

theorem neverRefuses_contains (t : Tree) (p : Path) : NeverRefuses (t.contains p) :=
  (t.neverRefuses_look p).bind fun _ => neverRefuses_ok _

/-- The change is made or stops, but it does not refuse anything. -/
def Change.NeverRefuses (c : Change) : Prop := ∀ f, c.fault = some f → f.isRefusal = false

theorem neverRefuses_done (t : Tree) : t.done.NeverRefuses := by
  intro f h
  cases h

theorem neverRefuses_stopped (t : Tree) {f : Failure} (hf : f.isRefusal = false) :
    (t.stopped f).NeverRefuses := by
  intro f' h
  cases h
  exact hf

theorem Change.NeverRefuses.andThen {c : Change} {next : Tree → Change} (hc : c.NeverRefuses)
    (hnext : ∀ t, (next t).NeverRefuses) : (c.andThen next).NeverRefuses := by
  rw [Change.andThen]
  split
  · exact hnext c.tree
  · exact hc

theorem neverRefuses_makeLast (t : Tree) (p : Path) : (t.makeLast p).NeverRefuses := by
  rw [makeLast]
  split
  · exact neverRefuses_done _
  · split
    · exact neverRefuses_done t
    · exact neverRefuses_stopped t rfl
  · exact neverRefuses_stopped t rfl
  · exact neverRefuses_stopped t rfl
  · exact neverRefuses_stopped t rfl

theorem neverRefuses_makeFrom (t : Tree) (written : Path) (steps : List String) :
    (t.makeFrom written steps).NeverRefuses := by
  induction steps with
  | nil => exact neverRefuses_done t
  | cons step before ih =>
      rw [makeFrom]
      split
      · exact ih.andThen fun u => neverRefuses_makeLast u _
      · exact neverRefuses_makeLast t _

theorem neverRefuses_makeDirectory (t : Tree) (p : Path) : (t.makeDirectory p).NeverRefuses := by
  rw [makeDirectory]
  split
  · exact neverRefuses_stopped t rfl
  · exact neverRefuses_makeFrom t p _

theorem neverRefuses_writeLast (t : Tree) (p : Path) (text : String) :
    (t.writeLast p text).NeverRefuses := by
  rw [writeLast]
  split
  · exact neverRefuses_stopped t rfl
  · split
    · exact neverRefuses_done _
    · exact neverRefuses_stopped t rfl
    · exact neverRefuses_stopped t rfl
    · exact neverRefuses_stopped t rfl
    · split
      · exact neverRefuses_done _
      · exact neverRefuses_stopped t rfl

theorem neverRefuses_write (t : Tree) (p : Path) (text : String) :
    (t.write p text).NeverRefuses :=
  (t.neverRefuses_makeDirectory p.parent).andThen fun u => u.neverRefuses_writeLast p text

end Tree

end Project

namespace Command

open Project

namespace Emission

variable {t : Tree} {e : Emission}

/-- Nothing is refused any more. -/
def NeverRefuses (e : Emission) : Prop := ∀ f, e.fault = some f → f.isRefusal = false

/-- What is refused is refused before anything is done to the files. -/
def RefusesFirst (t : Tree) (e : Emission) : Prop :=
  ∀ f, e.fault = some f → f.isRefusal = true → e.tree = t

theorem neverRefuses_nothing (t : Tree) : (nothing t).NeverRefuses := by
  intro f h
  cases h

theorem neverRefuses_stopped (t : Tree) {f : Failure} (hf : f.isRefusal = false) :
    (stopped t f).NeverRefuses := by
  intro f' h
  cases h
  exact hf

theorem NeverRefuses.andThen {next : Tree → Emission} (he : e.NeverRefuses)
    (hnext : ∀ u, (next u).NeverRefuses) : (e.andThen next).NeverRefuses := by
  cases h : e.fault with
  | some f =>
      rw [andThen_of_fault h]
      exact he
  | none =>
      rw [andThen_of_none h]
      exact hnext e.tree

theorem NeverRefuses.refusesFirst (h : e.NeverRefuses) : e.RefusesFirst t := by
  intro f hf hrefusal
  rw [h f hf] at hrefusal
  cases hrefusal

theorem refusesFirst_stopped (t : Tree) (f : Failure) : (stopped t f).RefusesFirst t :=
  fun _ _ _ => rfl

theorem refusesFirst_ofOutcome {α : Type} (t : Tree) (o : Outcome α) {next : α → Emission}
    (h : ∀ a, (next a).NeverRefuses) : (ofOutcome t o next).RefusesFirst t := by
  cases o with
  | error f => exact refusesFirst_stopped t f
  | ok a => exact (h a).refusesFirst

end Emission

theorem Output.neverRefuses_emission (o : Output) (t : Tree) : (o.emission t).NeverRefuses := by
  rw [Output.emission]
  cases hw : (t.write o.target o.file.text).fault with
  | none =>
      intro f h
      cases h
  | some f => exact Emission.neverRefuses_stopped _ (t.neverRefuses_write _ _ f hw)

theorem neverRefuses_writeEmission (os : List Output) (t : Tree) :
    (writeEmission os t).NeverRefuses := by
  induction os generalizing t with
  | nil => exact Emission.neverRefuses_nothing t
  | cons o rest ih => exact (o.neverRefuses_emission t).andThen ih

namespace GenerateRequest

variable {r : GenerateRequest}

theorem neverRefuses_outputFor (site : Site) {sourceFile : Platform → Outcome SourceFile}
    (hsource : ∀ p, NeverRefuses (sourceFile p)) (p : Platform) :
    NeverRefuses (r.outputFor site sourceFile p) :=
  (hsource p).bind fun _ => (Layout.neverRefuses_resolvedOr _ _).map.map

theorem neverRefuses_fileEmission (o : Output) (t : Tree) :
    (r.fileEmission o t).NeverRefuses := by
  rw [fileEmission]
  cases hc : t.contains o.target with
  | error f => exact Emission.neverRefuses_stopped t (t.neverRefuses_contains _ f hc)
  | ok found =>
      dsimp only
      split
      · exact Emission.neverRefuses_nothing t
      · cases hw : (t.write o.target o.file.text).fault with
        | none =>
            intro f h
            cases h
        | some f => exact Emission.neverRefuses_stopped _ (t.neverRefuses_write _ _ f hw)

theorem neverRefuses_filesEmission {os : List (Outcome Output)}
    (hos : ∀ o ∈ os, NeverRefuses o) (t : Tree) : (r.filesEmission os t).NeverRefuses := by
  induction os generalizing t with
  | nil => exact Emission.neverRefuses_nothing t
  | cons first rest ih =>
      rw [List.forall_mem_cons] at hos
      cases first with
      | error f => exact Emission.neverRefuses_stopped t (hos.1 f rfl)
      | ok o => exact (neverRefuses_fileEmission o t).andThen (ih hos.2)

/-- The source files of clients and themes are given or cannot be spelled. -/
theorem neverRefuses_sourceFile_of_work {site : Site} {source : Project.Path} {t : Tree}
    {work : Work} (h : r.work site source t = .ok work) :
    (∃ schemas, r.target = .model ∧ work = .models schemas) ∨
      ∃ sourceFile : Platform → Outcome SourceFile, (∀ p, NeverRefuses (sourceFile p)) ∧
        (work = .client sourceFile ∨ work = .theme sourceFile) := by
  cases htarget : r.target with
  | model =>
      obtain ⟨schemas, hwork⟩ := exists_models_of_work htarget h
      exact Or.inl ⟨schemas, rfl, hwork⟩
  | apiClient =>
      rw [GenerateRequest.work, htarget] at h
      obtain ⟨api, _, h⟩ := bind_eq_ok_iff.1 h
      cases h
      exact Or.inr ⟨_, fun _ => (givenIf_ofLines _ _ _).missing, Or.inl rfl⟩
  | theme =>
      rw [GenerateRequest.work, htarget] at h
      obtain ⟨theme, _, h⟩ := bind_eq_ok_iff.1 h
      cases h
      exact Or.inr ⟨_, fun p => (Theme.givenIf_sourceFile p theme _).missing, Or.inr rfl⟩

theorem neverRefuses_planEmission {plan : Plan} {base source : Project.Path} {t : Tree}
    (htarget : r.target ≠ .model) (h : r.Plans base t plan source) (u : Tree) :
    (r.planEmission plan u).NeverRefuses := by
  have hfiles : ∀ sourceFile : Platform → Outcome SourceFile, (∀ p, NeverRefuses (sourceFile p)) →
      (r.filesEmission (plan.platforms.map (r.outputFor plan.site sourceFile)) u).NeverRefuses := by
    intro sourceFile hsource
    refine neverRefuses_filesEmission (fun o ho => ?_) u
    obtain ⟨p, _, rfl⟩ := List.mem_map.1 ho
    exact neverRefuses_outputFor plan.site hsource p
  rw [planEmission]
  obtain ⟨_, hmodel, _⟩ | ⟨sourceFile, hsource, hwork | hwork⟩ :=
    neverRefuses_sourceFile_of_work h.work
  · exact absurd hmodel htarget
  · rw [hwork]
    exact hfiles sourceFile hsource
  · rw [hwork]
    exact hfiles sourceFile hsource

theorem refusesFirst_emission (htarget : r.target ≠ .model) (base : Project.Path) (t : Tree) :
    (r.emission base t).RefusesFirst t := by
  rw [emission]
  cases hplan : r.plan base t with
  | error f => exact Emission.refusesFirst_stopped t f
  | ok plan =>
      obtain ⟨source, hplans⟩ := plans_of_plan hplan
      exact (neverRefuses_planEmission htarget hplans t).refusesFirst

end GenerateRequest

theorem ComponentRequest.refusesFirst_emission (r : ComponentRequest) (base : Project.Path)
    (t : Tree) : (r.emission base t).RefusesFirst t :=
  Emission.refusesFirst_ofOutcome t _ fun o => o.neverRefuses_emission t

theorem PluginRequest.refusesFirst_emission (r : PluginRequest) (base : Project.Path) (t : Tree) :
    (r.emission base t).RefusesFirst t :=
  Emission.refusesFirst_ofOutcome t _ fun os => neverRefuses_writeEmission os t

end Command

end SpecForge
