import SpecForge.Proofs.Command.Outputs
import SpecForge.Proofs.Command.Report

/-!
# Files that a request for code keeps

A dry run changes nothing. Where files may not be written over, a file is written only if its path
leads nowhere. A path with a step back through a directory that is not there leads nowhere either,
although its directories are made before the file is written and it may then lead to a file that was
there. So files are kept, and each one that is counted is new, where no file name has a step back.
-/

namespace SpecForge.Command

open Project

namespace GenerateRequest

variable {r : GenerateRequest} {t : Tree}

/-! ## Each file that is written is new -/

/-- A file whose path does not lead back is written only where nothing was. -/
theorem Writes.free {o : Output} (h : r.Writes o t) (ht : t.WellFormed)
    (hkeep : r.overwrite = false) {base : Project.Path} {here : List String}
    (hbase : t.follow [] base.steps = .entry here .directory)
    (hdirect : base.IsDirectFrom o.target) : t.get? o.target.place = none := by
  have habsent := h.absent hkeep
  obtain ⟨hnull, _⟩ := Tree.look_eq_some_iff.1 h.found
  by_contra hne
  obtain ⟨e, he⟩ := Option.ne_none_iff_exists'.1 hne
  rcases Tree.find_of_isDirectFrom ht hbase hdirect he with hfind | hlong
  · have hlook := Tree.look_eq_some_iff.2 ⟨hnull, hfind⟩
    rw [Tree.contains_of_look hlook] at habsent
    cases habsent
  · rw [Tree.contains, Tree.look, hnull, hlong] at habsent
    cases habsent

theorem fileEmission_fresh (ht : t.WellFormed) (hkeep : r.overwrite = false)
    {base : Project.Path} {here : List String}
    (hbase : t.follow [] base.steps = .entry here .directory) {o : Output}
    (ho : base.IsDirectFrom o.target) : t.Fresh (r.fileEmission o t).written := by
  rcases fileEmission_cases r ht o with hw | hs
  · rw [hw.written]
    refine ⟨List.nodup_singleton _, fun w hmem => ?_⟩
    rw [List.mem_singleton.1 hmem]
    exact hw.free ht hkeep hbase ho
  · rw [hs.written]
    exact Tree.fresh_nil t

theorem filesEmission_fresh (ht : t.WellFormed) (hkeep : r.overwrite = false)
    {base : Project.Path} {here : List String}
    (hbase : t.follow [] base.steps = .entry here .directory) {os : List (Outcome Output)}
    (hos : ∀ o, .ok o ∈ os → base.IsDirectFrom o.target) :
    t.Fresh (r.filesEmission os t).written := by
  induction os generalizing t with
  | nil => exact Tree.fresh_nil t
  | cons first rest ih =>
      cases first with
      | error f => exact Tree.fresh_nil t
      | ok o =>
          have hfresh := fileEmission_fresh ht hkeep hbase (hos o List.mem_cons_self)
          have hbecomes := (fileEmission_covers (r := r) ht o).becomes
          rw [filesEmission]
          cases hf : (r.fileEmission o t).fault with
          | some f =>
              rw [Emission.andThen_of_fault hf]
              exact hfresh
          | none =>
              rw [Emission.andThen_of_none hf]
              -- no directory is taken away, so what comes next starts from the same one
              have hrest := ih hbecomes.wellFormed (hbecomes.follow_directory hbase)
                fun o' ho' => hos o' (List.mem_cons_of_mem _ ho')
              exact hfresh.append hbecomes hrest

/-! ## The files of a request -/

theorem exists_outputFor {plan : Plan} {o : Output} (h : .ok o ∈ r.planOutputs plan t) :
    ∃ sourceFile p, r.outputFor plan.site sourceFile p = .ok o := by
  rw [planOutputs] at h
  split at h
  · obtain ⟨schema, _, hmem⟩ := List.mem_flatMap.1 h
    obtain ⟨p, _, hmodel⟩ := ok_mem_modelOutputs_iff.1 hmem
    obtain ⟨m, hout⟩ := outputFor_of_modelOutput hmodel
    exact ⟨_, p, hout⟩
  · obtain ⟨p, _, hout⟩ := List.mem_map.1 h
    exact ⟨_, p, hout⟩
  · obtain ⟨p, _, hout⟩ := List.mem_map.1 h
    exact ⟨_, p, hout⟩

/-- The path to a file leads back only if its name does. -/
theorem isDirectFrom_target {plan : Plan} {o : Output} (h : .ok o ∈ r.planOutputs plan t)
    (hname : Path.up ∉ Path.stepsOf o.file.name) : plan.site.base.IsDirectFrom o.target := by
  obtain ⟨sourceFile, p, hout⟩ := exists_outputFor h
  obtain ⟨dir, hdir, htarget⟩ := directory_of_place (outputFor_eq_ok hout).2
  rw [htarget]
  exact (Layout.isDirectFrom_directory hdir).join hname

/-- Where there is a configuration there is a directory. -/
theorem directory_of_config {base : Project.Path} {config : Config}
    (h : Config.load t base = .ok config) :
    ∃ here, t.follow [] base.steps = .entry here .directory := by
  obtain ⟨text, hread, h⟩ := bind_eq_ok_iff.1 h
  obtain ⟨found, hlook, hread⟩ := bind_eq_ok_iff.1 hread
  cases found with
  | none =>
      cases hread
      cases h
  | some entry =>
      obtain ⟨place, e⟩ := entry
      have hfollow := Tree.follow_of_look hlook
      have hsteps : (base.join Config.fileName).steps = base.steps ++ [Config.fileName] := rfl
      rw [hsteps] at hfollow
      exact Tree.follow_prefix hfollow (List.cons_ne_nil _ _)

theorem emission_fresh (ht : t.WellFormed) {base : Project.Path} (hkeep : r.overwrite = false)
    (hnames : ∀ o, .ok o ∈ r.outputs base t → Path.up ∉ Path.stepsOf o.file.name) :
    t.Fresh (r.emission base t).written := by
  rw [emission_eq r ht]
  rw [outputs] at hnames ⊢
  cases hplan : r.plan base t with
  | error f => exact Tree.fresh_nil t
  | ok plan =>
      rw [hplan] at hnames
      obtain ⟨source, hplans⟩ := plans_of_plan hplan
      obtain ⟨here, hhere⟩ := directory_of_config hplans.config
      exact filesEmission_fresh ht hkeep hhere fun o ho => isDirectFrom_target ho (hnames o ho)

/-! ## What a run leaves -/

/-- What a run leaves of the files that there were. A dry run leaves everything as it is. If files
may not be written over, all of them are left if and only if what is written over one of them at
last is its own text, and as many files are new as the run says if and only if each of its writes
makes a new file. Each of them does so if no file name leads back. -/
structure LeavesFiles (r : GenerateRequest) (base : Project.Path) (t : Tree) (report : Report) :
    Prop where
  dry : r.isDryRun = true → report.tree = t
  kept : r.overwrite = false →
    (t.KeepsFiles report.tree ↔ t.Restores (r.emission base t).written)
  counted : r.overwrite = false → r.isDryRun = false → report.status = 0 →
    (∃ said work, report.output =
      said ++ "✓ " ++ Work.summary (r.emission base t).written.length work ++ "\n") ∧
    ((t.newFiles report.tree).ncard = (r.emission base t).written.length ↔
      t.Fresh (r.emission base t).written)
  fresh : r.overwrite = false →
    (∀ o, .ok o ∈ r.outputs base t → Path.up ∉ Path.stepsOf o.file.name) →
      t.Fresh (r.emission base t).written ∧ t.Restores (r.emission base t).written

end GenerateRequest

/-- What a run for code leaves of the files; words that make no request leave everything. -/
theorem run_leavesFiles (env : Environment) {t : Tree} (ht : t.WellFormed) (input : String)
    (words : List String) :
    (∀ e, Request.read words = .error e → (run env t input words).tree = t) ∧
      ∀ r, Request.read words = .ok (.generate r) →
        r.LeavesFiles env.directory t (run env t input words) := by
  refine ⟨fun e he => run_of_error he, fun r hr => ?_⟩
  have hbecomes : t.Becomes (r.emission env.directory t).written (run env t input words).tree := by
    rw [run_tree hr, r.emission_eq ht]
    exact (GenerateRequest.filesEmission_covers ht _).becomes
  constructor
  · intro hdry
    rw [run_tree hr, r.emission_eq ht]
    exact GenerateRequest.filesEmission_dry hdry _ t
  · exact fun _ => hbecomes.keepsFiles_iff
  · intro _ hdry hstatus
    exact ⟨run_output hr hdry hstatus, hbecomes.ncard_newFiles_eq_iff⟩
  · intro hkeep hnames
    have hfresh := GenerateRequest.emission_fresh ht hkeep hnames
    exact ⟨hfresh, hfresh.restores⟩

/-- Where a project stands. -/
def projectPlace : Environment := ⟨Path.ofSteps ["work"], false⟩

/-- A project with a schema of this title, in whose directory for code a file is already. -/
def projectWith (title : String) : Tree where
  entries :=
    [(["work"], .directory),
      (["work", Config.fileName],
        .file (Json.indented (.record [("name", .str "a"), ("platforms", .list [.str "ios"])]))),
      (["work", "u.json"],
        .file (Json.indented (.record [("type", .str "object"), ("title", .str title)]))),
      (["work", "o"], .directory),
      (["work", "o", "User.swift"], .file "mine")]

/-- The words that ask for the model of its schema. -/
def projectWords : List String := ["generate", "model", "--from", "u.json", "--output", "o"]

theorem wellFormed_projectWith (title : String) : (projectWith title).WellFormed := by
  refine Tree.wellFormed_of_entries fun entry hentry => ?_
  simp only [projectWith, List.mem_cons, List.not_mem_nil, or_false] at hentry
  rcases hentry with rfl | rfl | rfl | rfl | rfl <;> rfl

/-- The file that was there is kept beside the new one. -/
theorem keepsFiles_projectWith :
    (projectWith "Order").WellFormed ∧
      (projectWith "Order").KeepsFiles
        (run projectPlace (projectWith "Order") "" projectWords).tree := by
  have ht := wellFormed_projectWith "Order"
  have hleaves := (run_leavesFiles projectPlace ht "" projectWords).2 _ rfl
  refine ⟨ht, (hleaves.kept rfl).2 (Tree.Fresh.restores ⟨?_, ?_⟩)⟩
  · decide +kernel
  · decide +kernel

/-- The file that was there is written over, although it may not be: the path of the new one leads
back through a directory that is not there at first. -/
theorem not_keepsFiles_projectWith :
    ∃ r, Request.read projectWords = .ok (.generate r) ∧ r.overwrite = false ∧
      (projectWith "x/../User").WellFormed ∧
      (run projectPlace (projectWith "x/../User") "" projectWords).status = 0 ∧
      ¬ (projectWith "x/../User").KeepsFiles
        (run projectPlace (projectWith "x/../User") "" projectWords).tree := by
  refine ⟨_, rfl, rfl, wellFormed_projectWith _, by decide +kernel, fun hkept => ?_⟩
  have hfile := hkept ["work", "o", "User.swift"] "mine" (by decide +kernel)
  revert hfile
  decide +kernel

end SpecForge.Command
