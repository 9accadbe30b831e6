import SpecForge.Command.Run
import SpecForge.Proofs.Command.Plan
import SpecForge.Proofs.Command.Report
import SpecForge.Proofs.Project.Inside

/-!
# What generating one component or plugin does to the files

A component comes to one file and a plugin to several. Once it is known which they are, they are
written one after the other, whatever is there already. All the rest of the command only speaks.
-/

namespace SpecForge.Command

open Activity Project

/-- The emission of a file that is written in any case. -/
def Output.emission (o : Output) (t : Tree) : Emission :=
  match (t.write o.target o.file.text).fault with
  | none => ⟨(t.write o.target o.file.text).tree, [o.write], none⟩
  | some f => .stopped (t.write o.target o.file.text).tree f

/-- The emission of several files that are written in any case. -/
def writeEmission : List Output → Tree → Emission
  | [], t => .nothing t
  | o :: rest, t => (o.emission t).andThen (writeEmission rest)

/-- An emission that needs a result, without which nothing is done. -/
def Emission.ofOutcome {α : Type} (t : Tree) (o : Outcome α) (next : α → Emission) : Emission :=
  match o with
  | .ok a => next a
  | .error f => .stopped t f

/-- With these files the action has this emission. -/
def Leaves (t : Tree) (x : Activity Unit) (e : Emission) : Prop :=
  ∀ s, Has t s → x.Ends s (GenerateRequest.ending e) (Has e.tree)

/-- An action that neither stops nor changes a file. -/
def IsQuiet (x : Activity Unit) : Prop := ∀ t s, Has t s → x.Ends s (.ok ()) (Has t)

section

variable {α β : Type} {t : Tree} {x y : Activity Unit} {e : Emission}

theorem isQuiet_say (n : Notice) : IsQuiet (say n) := fun _ _ hs => ends_say hs

theorem IsQuiet.bind (hx : IsQuiet x) (hy : IsQuiet y) : IsQuiet (x >>= fun _ => y) :=
  fun t s hs => (hx t s hs).bind fun s' hs' => hy t s' hs'

theorem isQuiet_lines (texts : List String) : IsQuiet (lines texts) := by
  induction texts with
  | nil => exact fun _ _ hs => ends_pure hs
  | cons text rest ih => exact (isQuiet_say _).bind ih

theorem IsQuiet.leaves_bind (hx : IsQuiet x) (hy : Leaves t y e) :
    Leaves t (x >>= fun _ => y) e :=
  fun s hs => (hx t s hs).bind hy

theorem Leaves.bind_quiet (hx : Leaves t x e) (hy : IsQuiet y) :
    Leaves t (x >>= fun _ => y) e := by
  intro s hs
  have hends := hx s hs
  rw [GenerateRequest.ending] at hends ⊢
  cases hf : e.fault with
  | some f =>
      rw [hf] at hends
      exact hends.bind_error
  | none =>
      rw [hf] at hends
      exact hends.bind fun s' hs' => hy _ s' hs'

/-- One action and another one behind it, which finds the files that the first has left. -/
theorem Leaves.andThen {next : Tree → Emission} (hx : Leaves t x e)
    (hy : Leaves e.tree y (next e.tree)) : Leaves t (x >>= fun _ => y) (e.andThen next) := by
  intro s hs
  have hends := hx s hs
  rw [GenerateRequest.ending] at hends
  cases hf : e.fault with
  | some f =>
      rw [hf] at hends
      rw [Emission.andThen_of_fault hf, GenerateRequest.ending, hf]
      exact hends.bind_error
  | none =>
      rw [hf] at hends
      rw [Emission.andThen_of_none hf]
      exact hends.bind hy

theorem leaves_write (o : Output) : Leaves t (write o.target o.file.text) (o.emission t) := by
  rintro s rfl
  rw [Output.emission]
  cases hw : (s.tree.write o.target o.file.text).fault with
  | none => exact ends_write hw rfl
  | some f => exact ends_write_error hw rfl

/-- Behind what gives a result comes what is done with the result. -/
theorem leaves_bind {x : Activity α} {f : α → Activity Unit} {o : Outcome α} {g : α → Outcome β}
    {next : β → Emission} (hx : ∀ s, Has t s → x.Ends s (stopping o) (Has t))
    (hf : ∀ a, Leaves t (f a) (.ofOutcome t (g a) next)) :
    Leaves t (x >>= f) (.ofOutcome t (o.bind g) next) := by
  intro s hs
  have hends := hx s hs
  cases o with
  | error failure => exact hends.bind_error
  | ok a => exact hends.bind (hf a)

theorem leaves_ofOutcome_bind {f : α → Activity Unit} {o : Outcome α} {g : α → Outcome β}
    {next : β → Emission} (hf : ∀ a, Leaves t (f a) (.ofOutcome t (g a) next)) :
    Leaves t (ofOutcome o >>= f) (.ofOutcome t (o.bind g) next) :=
  leaves_bind (fun _ hs => ends_ofOutcome o hs) hf

end

/-- The writes of several files, whatever was there. -/
theorem Output.emission_becomes {t : Tree} (ht : t.WellFormed) (o : Output) :
    t.Becomes (o.emission t).written (o.emission t).tree ∧
      ∀ w ∈ (o.emission t).written, w = o.write := by
  rw [Output.emission]
  cases hw : (t.write o.target o.file.text).fault with
  | none => exact ⟨Tree.write_becomes ht hw, fun w hmem => List.mem_singleton.1 hmem⟩
  | some f =>
      exact ⟨(Tree.write_prepares ht hw).becomes, fun w hmem => absurd hmem List.not_mem_nil⟩

theorem writeEmission_becomes {t : Tree} (ht : t.WellFormed) (os : List Output) :
    t.Becomes (writeEmission os t).written (writeEmission os t).tree ∧
      ∀ w ∈ (writeEmission os t).written, ∃ o ∈ os, w = o.write := by
  induction os generalizing t with
  | nil => exact ⟨.refl ht, fun w hmem => absurd hmem List.not_mem_nil⟩
  | cons o rest ih =>
      obtain ⟨hbecomes, hwritten⟩ := o.emission_becomes ht
      have hfirst : ∀ w ∈ (o.emission t).written, ∃ o' ∈ o :: rest, w = o'.write :=
        fun w hw => ⟨o, List.mem_cons_self, hwritten w hw⟩
      rw [writeEmission]
      cases hf : (o.emission t).fault with
      | some f =>
          -- a failure ends the run, and what was written before it stays
          rw [Emission.andThen_of_fault hf]
          exact ⟨hbecomes, hfirst⟩
      | none =>
          rw [Emission.andThen_of_none hf]
          obtain ⟨hrest, hlast⟩ := ih hbecomes.wellFormed
          refine ⟨hbecomes.trans hrest, fun w hw => ?_⟩
          rcases List.mem_append.1 hw with hw | hw
          · exact hfirst w hw
          · obtain ⟨o', ho', hwrite⟩ := hlast w hw
            exact ⟨o', List.mem_cons_of_mem o ho', hwrite⟩

/-! ## Components -/

namespace ComponentRequest

/-- The specification and what the file names as its source. -/
def given (r : ComponentRequest) (base : Project.Path) (t : Tree) : Outcome (Value × String) :=
  match written? r.source, written? r.name with
  | some source, _ => (t.contains (base.join source)).bind fun found =>
    if found then (t.document (base.join source)).map fun doc => (doc, (base.join source).name)
    else .error (.spec (.noFile "Component specification" (base.join source).text))
  | none, some name =>
    .ok (Component.basicSpec name ((written? r.category).getD "components"), "inline")
  | none, none => .error (.spec .nothingNamed)

/-- The file of a component with its path. -/
def outputFor (r : ComponentRequest) (base : Project.Path) (component : Component)
    (label : String) : Outcome Output :=
  (component.sourceFile label).bind fun file =>
    (Layout.componentDirectory base (Text.lower r.platform) component.category r.output).bind
      fun directory => .ok ⟨file, directory.join file.name⟩

/-- The file that a request comes to. -/
def generated (r : ComponentRequest) (base : Project.Path) (t : Tree) : Outcome Output :=
  (r.given base t).bind fun spec => (Component.ofSpec spec.1).bind fun component =>
    (Generator.builtin.get SpecKind.component.name (Text.lower r.platform)).bind fun _ =>
      r.outputFor base component spec.2

/-- The emission of a request. -/
def emission (r : ComponentRequest) (base : Project.Path) (t : Tree) : Emission :=
  .ofOutcome t (r.generated base t) fun o => o.emission t

theorem specification_ends (r : ComponentRequest) (base : Project.Path) {t : Tree} {s : Session}
    (hs : Has t s) : (r.specification base).Ends s (stopping (r.given base t)) (Has t) := by
  rw [specification, given]
  cases written? r.source with
  | none =>
      cases written? r.name with
      | none => exact ends_fail hs
      | some name => exact ends_pure hs
  | some source =>
      refine (ends_exists? _ hs).bind_stopping fun found s₁ _ hs => ?_
      cases found with
      | false => exact ends_fail hs
      | true =>
          rw [if_pos rfl, if_pos rfl]
          refine (ends_files (Q := (· = s₁)) rfl).bind fun s₂ hs₂ => ?_
          rw [hs₂, hs]
          have hdocument := ends_ofOutcome (t.document (base.join source)) hs
          cases hd : t.document (base.join source) with
          | error f =>
              rw [hd] at hdocument
              exact hdocument.bind_error
          | ok doc =>
              rw [hd] at hdocument
              exact hdocument.bind fun _ hs => ends_pure hs

theorem perform_leaves (r : ComponentRequest) (base : Project.Path) (t : Tree) :
    Leaves t (r.perform base) (r.emission base t) := by
  refine leaves_bind (fun s hs => r.specification_ends base hs) fun spec => ?_
  obtain ⟨document, label⟩ := spec
  refine leaves_ofOutcome_bind fun component => ?_
  refine leaves_ofOutcome_bind fun _ => ?_
  refine (isQuiet_lines _).leaves_bind ?_
  refine leaves_ofOutcome_bind fun file => ?_
  refine leaves_ofOutcome_bind fun directory => ?_
  refine (leaves_write ⟨file, directory.join file.name⟩).bind_quiet ?_
  exact (isQuiet_say _).bind ((isQuiet_say _).bind ((isQuiet_say _).bind ((isQuiet_say _).bind
    ((isQuiet_say _).bind (isQuiet_lines _)))))

theorem emission_becomes (r : ComponentRequest) (base : Project.Path) {t : Tree}
    (ht : t.WellFormed) :
    t.Becomes (r.emission base t).written (r.emission base t).tree ∧
      ∀ w ∈ (r.emission base t).written, ∃ o, r.generated base t = .ok o ∧ w = o.write := by
  rw [emission]
  cases r.generated base t with
  | error f => exact ⟨.refl ht, fun w hw => absurd hw List.not_mem_nil⟩
  | ok o =>
      obtain ⟨hbecomes, hwritten⟩ := o.emission_becomes ht
      exact ⟨hbecomes, fun w hw => ⟨o, rfl, hwritten w hw⟩⟩

end ComponentRequest

/-! ## Plugins -/

namespace PluginRequest

/-- The files that a request comes to. -/
def outputs (r : PluginRequest) (base : Project.Path) : Outcome (List Output) :=
  (Plugin.ofSpec (Plugin.templateSpec r.name r.template)).bind fun plugin =>
    (Generator.builtin.get SpecKind.plugin.name (Text.lower r.platform)).bind fun _ =>
      (Layout.pluginDirectory base (Text.lower r.platform) plugin.name r.output).bind
        fun directory => (Markup.check s!"Generating {r.name} plugin...").bind fun _ =>
          plugin.sourceFiles.bind fun files =>
            .ok (files.map fun file => ⟨file, directory.join file.name⟩)

/-- The emission of a request. -/
def emission (r : PluginRequest) (base : Project.Path) (t : Tree) : Emission :=
  .ofOutcome t (r.outputs base) fun os => writeEmission os t

theorem writeFiles_leaves (directory : Project.Path) (files : List SourceFile) (t : Tree) :
    Leaves t (writeFiles directory files)
      (writeEmission (files.map fun file => ⟨file, directory.join file.name⟩) t) := by
  induction files generalizing t with
  | nil => exact fun _ hs => ends_pure hs
  | cons file rest ih =>
      have hwrite : Leaves t (write (directory.join file.name) file.text)
          (Output.emission ⟨file, directory.join file.name⟩ t) :=
        leaves_write ⟨file, directory.join file.name⟩
      exact hwrite.andThen ((isQuiet_say _).leaves_bind (ih _))

theorem perform_leaves (r : PluginRequest) (base : Project.Path) (t : Tree) :
    Leaves t (r.perform base) (r.emission base t) := by
  refine leaves_ofOutcome_bind fun plugin => ?_
  refine leaves_ofOutcome_bind fun _ => ?_
  refine (isQuiet_lines _).leaves_bind ?_
  refine leaves_ofOutcome_bind fun directory => ?_
  refine leaves_ofOutcome_bind fun _ => ?_
  refine leaves_ofOutcome_bind fun files => ?_
  refine (writeFiles_leaves directory files t).bind_quiet ?_
  exact (isQuiet_say _).bind ((isQuiet_say _).bind ((isQuiet_say _).bind ((isQuiet_say _).bind
    ((isQuiet_say _).bind (isQuiet_lines _)))))

theorem emission_becomes (r : PluginRequest) (base : Project.Path) {t : Tree}
    (ht : t.WellFormed) :
    t.Becomes (r.emission base t).written (r.emission base t).tree ∧
      ∀ w ∈ (r.emission base t).written, ∃ os, r.outputs base = .ok os ∧
        ∃ o ∈ os, w = o.write := by
  rw [emission]
  cases r.outputs base with
  | error f => exact ⟨.refl ht, fun w hw => absurd hw List.not_mem_nil⟩
  | ok os =>
      obtain ⟨hbecomes, hwritten⟩ := writeEmission_becomes ht os
      exact ⟨hbecomes, fun w hw => ⟨os, rfl, hwritten w hw⟩⟩

end PluginRequest

/-! ## Runs -/

section

variable {env : Environment} {t : Tree} {input : String} {words : List String}

theorem run_tree_of_read {request : Request} (h : Request.read words = .ok request) :
    (run env t input words).tree =
      ((request.perform env).perform ⟨t, [], typedLines input⟩).2.tree := by
  rw [run, h]
  exact report_tree request _

/-- A run leaves the files of its emission. -/
theorem run_tree_component {r : ComponentRequest} (h : Request.read words = .ok (.component r)) :
    (run env t input words).tree = (r.emission env.directory t).tree :=
  (run_tree_of_read h).trans
    (r.perform_leaves env.directory t ⟨t, [], typedLines input⟩ rfl).session

theorem run_tree_plugin {r : PluginRequest} (h : Request.read words = .ok (.plugin r)) :
    (run env t input words).tree = (r.emission env.directory t).tree :=
  (run_tree_of_read h).trans
    (r.perform_leaves env.directory t ⟨t, [], typedLines input⟩ rfl).session

end

end SpecForge.Command
