import SpecForge.Proofs.Command.KeptFiles
import SpecForge.Proofs.Command.Refusal
import SpecForge.Proofs.Project.SavedConfig

/-!
# Files that are kept when a project is begun

A new project is made in steps: directories, and files that are written in any case. It is refused
where there is something already, and an empty directory holds nothing that could be written over.
Only a path with a step back through a directory that is not there seems to lead nowhere and then,
when its directories have been made, leads to a directory with files in it.
-/

namespace SpecForge

namespace Project

namespace Path

/-- A path that is one step longer. -/
theorem place_join_step (p : Path) {name : String} (hsteps : stepsOf name = [name])
    (hstart : Text.startsWith name "/" = false) (hup : name ≠ up) :
    (p.join name).place = p.place ++ [name] := by
  refine place_concat ?_ hup
  rw [join, hstart, hsteps]
  rfl

end Path

namespace Tree

/-- Is there nothing below the place? -/
def IsFreeBelow (t : Tree) (place : List String) : Prop :=
  ∀ name, t.get? (place ++ [name]) = none

theorem isFreeBelow_of_names {t : Tree} {place : List String} (h : t.names place = []) :
    t.IsFreeBelow place := by
  intro name
  by_contra hne
  rw [get?_eq_lookup t (by simp), ← ne_eq, ne_eq, List.lookup_eq_none_iff] at hne
  obtain ⟨entry, hentry⟩ := Classical.not_forall.1 hne
  obtain ⟨hmem, hkey⟩ := Classical.not_imp.1 hentry
  have hplace : place ++ [name] = entry.1 := by
    simpa using hkey
  rw [names, List.filterMap_eq_nil_iff] at h
  have hnone := h entry hmem
  rw [← hplace, List.dropLast_concat, List.getLast?_concat, if_pos (beq_self_eq_true place)]
    at hnone
  cases hnone

theorem isFreeBelow_of_isEmptyDirectory {t : Tree} (ht : t.WellFormed) {p : Path}
    (h : t.isEmptyDirectory p = .ok true) : t.IsFreeBelow p.place := by
  obtain ⟨found, hlook, h⟩ := bind_eq_ok_iff.1 h
  split at h
  · rename_i place
    obtain ⟨hplace, _⟩ := find_eq_entry ht (look_eq_some_iff.1 hlook).2
    rw [← hplace]
    exact isFreeBelow_of_names (List.isEmpty_iff.1 (Except.ok.inj h))
  · cases h

theorem WellFormed.isFreeBelow {t : Tree} (ht : t.WellFormed) {place : List String}
    (h : t.get? place = none) : t.IsFreeBelow place := by
  intro name
  by_contra hne
  have hparent := ht.parent hne
  rw [h] at hparent
  cases hparent

/-- Where a path that does not lead back leads nowhere there is nothing. -/
theorem isFreeBelow_of_contains {t : Tree} (ht : t.WellFormed) {p : Path} (hup : Path.up ∉ p.steps)
    (hnull : p.hasNull = false) (h : t.contains p = .ok false) : t.IsFreeBelow p.place := by
  refine ht.isFreeBelow ?_
  by_contra hne
  obtain ⟨e, he⟩ := Option.ne_none_iff_exists'.1 hne
  have hdirect : Path.root.IsDirectFrom p := ⟨p.steps, hup, Or.inl rfl⟩
  have hroot : t.follow [] Path.root.steps = .entry [] .directory := rfl
  rcases find_of_isDirectFrom ht hroot hdirect he with hfind | hlong
  · rw [contains_of_look (look_eq_some_iff.2 ⟨hnull, hfind⟩)] at h
    cases h
  · rw [contains, look, hnull, hlong] at h
    cases h

end Tree

end Project

namespace Command

open Activity Project

/-! ## Steps -/

/-- One step in making a project. -/
inductive Step where
  | directory (p : Project.Path)
  | file (o : Output)

/-- The emission of a step. -/
def Step.emission : Step → Tree → Emission
  | .directory p, t => ⟨(t.makeDirectory p).tree, [], (t.makeDirectory p).fault⟩
  | .file o, t => o.emission t

/-- The emission of several steps. -/
def stepsEmission : List Step → Tree → Emission
  | [], t => .nothing t
  | step :: rest, t => (step.emission t).andThen (stepsEmission rest)

/-- The file that a step writes, if it writes one. -/
def Step.writes : Step → List Write
  | .directory _ => []
  | .file o => [o.write]

theorem stepsEmission_append (steps rest : List Step) (t : Tree) :
    stepsEmission (steps ++ rest) t = (stepsEmission steps t).andThen (stepsEmission rest) := by
  induction steps generalizing t with
  | nil => exact (Emission.nothing_andThen t _).symm
  | cons step steps ih =>
      rw [List.cons_append, stepsEmission, stepsEmission, Emission.andThen_assoc]
      exact Emission.andThen_congr (ih _)

theorem stepsEmission_singleton (step : Step) (t : Tree) :
    stepsEmission [step] t = step.emission t := Emission.andThen_nothing _

theorem Step.neverRefuses_emission (step : Step) (t : Tree) : (step.emission t).NeverRefuses := by
  cases step with
  | directory p => exact t.neverRefuses_makeDirectory p
  | file o => exact o.neverRefuses_emission t

theorem neverRefuses_stepsEmission (steps : List Step) (t : Tree) :
    (stepsEmission steps t).NeverRefuses := by
  induction steps generalizing t with
  | nil => exact Emission.neverRefuses_nothing t
  | cons step rest ih => exact (step.neverRefuses_emission t).andThen ih

theorem Step.emission_becomes {t : Tree} (ht : t.WellFormed) (step : Step) :
    t.Becomes (step.emission t).written (step.emission t).tree := by
  cases step with
  | directory p => exact (Tree.makeDirectory_prepares ht p).becomes
  | file o => exact (o.emission_becomes ht).1

theorem stepsEmission_becomes {t : Tree} (ht : t.WellFormed) (steps : List Step) :
    t.Becomes (stepsEmission steps t).written (stepsEmission steps t).tree := by
  induction steps generalizing t with
  | nil => exact .refl ht
  | cons step rest ih =>
      have hfirst := step.emission_becomes ht
      rw [stepsEmission]
      cases hf : (step.emission t).fault with
      | some f =>
          rw [Emission.andThen_of_fault hf]
          exact hfirst
      | none =>
          rw [Emission.andThen_of_none hf]
          exact hfirst.trans (ih hfirst.wellFormed)

theorem Step.written_of_fault {step : Step} {t : Tree} {f : Failure}
    (h : (step.emission t).fault = some f) : (step.emission t).written = [] := by
  cases step with
  | directory p => rfl
  | file o =>
      rw [emission, Output.emission] at h ⊢
      split
      · rename_i hw
        rw [hw] at h
        cases h
      · rfl

theorem Step.written_of_none {step : Step} {t : Tree} (h : (step.emission t).fault = none) :
    (step.emission t).written = step.writes := by
  cases step with
  | directory p => rfl
  | file o =>
      rw [emission, Output.emission] at h ⊢
      split
      · rfl
      · rename_i hw
        rw [hw] at h
        cases h

/-- The files are written in the order of the steps, up to one that stops. -/
theorem written_stepsEmission (steps : List Step) (t : Tree) :
    (stepsEmission steps t).written <+: steps.flatMap Step.writes := by
  induction steps generalizing t with
  | nil => exact List.prefix_rfl
  | cons step rest ih =>
      rw [stepsEmission, List.flatMap_cons]
      cases hf : (step.emission t).fault with
      | some f =>
          rw [Emission.andThen_of_fault hf, step.written_of_fault hf]
          exact List.nil_prefix
      | none =>
          rw [Emission.andThen_of_none hf]
          dsimp only
          rw [step.written_of_none hf]
          exact (List.prefix_append_right_inj _).2 (ih _)

/-! ## The steps of a new project -/

theorem leaves_files_bind {f : Tree → Activity Unit} {t : Tree} {e : Emission}
    (hf : Leaves t (f t) e) : Leaves t (files >>= f) e := by
  rintro s rfl
  exact (ends_files (Q := Has s.tree) rfl).bind fun s' hs => hf s' hs

theorem Leaves.ends {x : Activity Unit} {t : Tree} {e : Emission} (hx : Leaves t x e) {s : Session}
    (hs : Has t s) : x.Ends s (GenerateRequest.ending e) (Has e.tree) := hx s hs

theorem leaves_given {α : Type} {f : α → Activity Unit} {t : Tree} {o : Outcome α}
    {next : α → Emission} (hf : ∀ a, Leaves t (f a) (next a)) :
    Leaves t (ofOutcome o >>= f) (.ofOutcome t o next) := by
  intro s hs
  cases o with
  | error failure => exact (ends_fail hs).bind_error
  | ok a => exact hf a s hs

namespace InitRequest

/-- The directories of a new project. -/
def directorySteps (root : Project.Path) (platforms : List String) : List Step :=
  (Project.directories (.ofNames platforms)).map fun directory => .directory (root.join directory)

/-- A file in the directory of a new project. -/
def fileStep (root : Project.Path) (name text : String) : Step :=
  .file ⟨⟨name, text⟩, root.join name⟩

/-- The file with what is left out of the history, if there is going to be one. -/
def historySteps (r : InitRequest) (root : Project.Path) (canBegin : Bool) : List Step :=
  match r.hasHistory, canBegin with
  | true, true => [fileStep root ".gitignore" ignored]
  | _, _ => []

/-- The steps in which a project is made. -/
def steps (r : InitRequest) (root : Project.Path) (name : String) (platforms : List String)
    (canBegin : Bool) : List Step :=
  [.directory root] ++ (directorySteps root platforms ++
    ([fileStep root Config.fileName (Config.new name platforms r.repository).fileText] ++
      (r.historySteps root canBegin ++
        [fileStep root "README.md"
          (readme name (.ofNames platforms) r.packageManager)])))

/-- The directory is not taken. -/
def free (t : Tree) (root : Project.Path) : Outcome Unit :=
  (t.contains root).bind fun found => (t.isEmptyDirectory root).bind fun isEmpty =>
    if found && !isEmpty then .error (.taken root.name) else .ok ()

/-- The emission of a new project. -/
def buildEmission (r : InitRequest) (root : Project.Path) (name : String) (platforms : List String)
    (canBegin : Bool) (t : Tree) : Emission :=
  .ofOutcome t (free t root) fun _ => stepsEmission (r.steps root name platforms canBegin) t

/-- What the request says or the user replies, and the replies that are left. -/
def answer? (said : Option String) (usual : String) (replies : List String) :
    Option (String × List String) :=
  match written? said with
  | some s => some (s, replies)
  | none => match replies with
    | [] => none
    | reply :: rest => some (if reply.isEmpty then usual else reply, rest)

/-- The name of the project and the text that lists its platforms. -/
def answers? (r : InitRequest) (replies : List String) : Option (String × String) :=
  (answer? r.name "my-cuppa-app" replies).bind fun name =>
    (answer? r.platforms "ios,web" name.2).map fun text => (name.1, text.1)

/-- The emission of a request, if there are answers. -/
def emission (r : InitRequest) (base : Project.Path) (canBegin : Bool) (replies : List String)
    (t : Tree) : Emission :=
  match r.answers? replies with
  | none => .nothing t
  | some (name, text) => .ofOutcome t (readPlatforms text) fun platforms =>
    r.buildEmission (base.join name) name platforms canBegin t

/-! ## The command takes these steps -/

theorem leaves_step_directory (p : Project.Path) (t : Tree) :
    Leaves t (change fun t => t.makeDirectory p) ((Step.directory p).emission t) := by
  rintro s rfl
  rw [Step.emission, GenerateRequest.ending]
  cases hp : (s.tree.makeDirectory p).fault with
  | none =>
      constructor
      · rw [perform_change, hp]
      · rw [perform_change]
        rfl
  | some f =>
      constructor
      · rw [perform_change, hp]
      · rw [perform_change]
        rfl

theorem leaves_step_file (root : Project.Path) (name text : String) (t : Tree) :
    Leaves t (write (root.join name) text) ((fileStep root name text).emission t) :=
  leaves_write ⟨⟨name, text⟩, root.join name⟩

theorem leaves_step_config (root : Project.Path) (name : String) (platforms : List String)
    (repository : Option String) (t : Tree) :
    Leaves t (change fun t => (Config.new name platforms repository).save t root)
      ((fileStep root Config.fileName (Config.new name platforms repository).fileText).emission
        t) := by
  simp only [Config.save_new]
  exact leaves_step_file root _ _ t

theorem makeDirectories_leaves (root : Project.Path) (directories : List String) (t : Tree) :
    Leaves t (makeDirectories root directories)
      (stepsEmission (directories.map fun directory => .directory (root.join directory)) t) := by
  induction directories generalizing t with
  | nil => exact fun s hs => ends_pure hs
  | cons directory rest ih => exact (leaves_step_directory _ t).andThen (ih _)

theorem beginHistory_leaves (r : InitRequest) (root : Project.Path) (canBegin : Bool) {t : Tree}
    {y : Activity Unit} {rest : List Step} (hy : ∀ u, Leaves u y (stepsEmission rest u)) :
    Leaves t (if r.hasHistory then beginHistory root canBegin >>= fun _ => y else y)
      (stepsEmission (r.historySteps root canBegin ++ rest) t) := by
  rw [historySteps.eq_def, stepsEmission_append]
  cases r.hasHistory with
  | false =>
      rw [stepsEmission, Emission.nothing_andThen]
      exact hy t
  | true =>
      cases canBegin with
      | false =>
          rw [stepsEmission, Emission.nothing_andThen]
          exact (isQuiet_say _).leaves_bind (hy t)
      | true =>
          rw [stepsEmission_singleton]
          have hfile : Leaves t (beginHistory root true) _ :=
            (leaves_step_file root ".gitignore" ignored t).bind_quiet (isQuiet_say _)
          exact hfile.andThen (hy _)

theorem build_leaves (r : InitRequest) (root : Project.Path) (name : String)
    (platforms : List String) (canBegin : Bool) (t : Tree) :
    Leaves t (r.build root name platforms canBegin)
      (r.buildEmission root name platforms canBegin t) := by
  refine leaves_bind (fun s hs => ends_exists? root hs) fun found => ?_
  refine leaves_files_bind (leaves_ofOutcome_bind fun isEmpty => ?_)
  dsimp only
  split
  · exact fun s hs => ends_fail hs
  · rw [steps]
    change Leaves t _ (stepsEmission _ t)
    rw [stepsEmission_append, stepsEmission_singleton]
    refine (leaves_step_directory root t).andThen ((isQuiet_say _).leaves_bind ?_)
    rw [stepsEmission_append]
    refine (makeDirectories_leaves root _ _).andThen ((isQuiet_say _).leaves_bind ?_)
    rw [stepsEmission_append, stepsEmission_singleton]
    refine (leaves_step_config root name platforms r.repository _).andThen
      ((isQuiet_say _).leaves_bind ?_)
    refine beginHistory_leaves r root canBegin fun u => ?_
    rw [stepsEmission_singleton]
    exact (leaves_step_file root _ _ u).bind_quiet (isQuiet_say _)

theorem given_ends {said : Option String} {usual : String} {replies rest : List String}
    {answer : String} (h : answer? said usual replies = some (answer, rest)) (label : String)
    {t : Tree} {s : Session} (hs : Has t s) (hreplies : s.replies = replies) :
    (given said label usual).Ends s (.ok answer) fun s' => Has t s' ∧ s'.replies = rest := by
  obtain ⟨tree, notices, typed⟩ := s
  obtain rfl : typed = replies := hreplies
  rw [answer?.eq_def] at h
  rw [given.eq_def]
  cases hsaid : written? said with
  | some text =>
      rw [hsaid] at h
      cases h
      exact ends_pure ⟨hs, rfl⟩
  | none =>
      rw [hsaid] at h
      cases typed with
      | nil => cases h
      | cons reply replies =>
          cases h
          exact ⟨rfl, hs, rfl⟩

theorem given_ends_unanswered {said : Option String} {usual : String} {replies : List String}
    (h : answer? said usual replies = none) (label : String) {t : Tree} {s : Session}
    (hs : Has t s) (hreplies : s.replies = replies) :
    (given said label usual).Ends s (.error .unanswered) (Has t) := by
  obtain ⟨tree, notices, typed⟩ := s
  obtain rfl : typed = replies := hreplies
  rw [answer?.eq_def] at h
  rw [given.eq_def]
  cases hsaid : written? said with
  | some text =>
      rw [hsaid] at h
      cases h
  | none =>
      rw [hsaid] at h
      cases typed with
      | nil => exact ⟨rfl, hs⟩
      | cons reply replies => cases h

/-- How a request ends that has this emission. -/
def ending (r : InitRequest) (replies : List String) (e : Emission) : Except Stop Unit :=
  match r.answers? replies with
  | none => .error .unanswered
  | some _ => GenerateRequest.ending e

/-- A request has its emission, and stops without an answer if one is not given. -/
theorem perform_ends (r : InitRequest) (base : Project.Path) (canBegin : Bool) (t : Tree)
    (replies : List String) :
    (r.perform base canBegin).Ends ⟨t, [], replies⟩
      (r.ending replies (r.emission base canBegin replies t))
      (Has (r.emission base canBegin replies t).tree) := by
  rw [ending, emission, answers?, perform]
  cases hname : answer? r.name "my-cuppa-app" replies with
  | none => exact (given_ends_unanswered hname _ rfl rfl).bind_error
  | some name =>
      obtain ⟨name, rest⟩ := name
      cases htext : answer? r.platforms "ios,web" rest with
      | none =>
          rw [Option.bind_some, htext]
          refine (given_ends hname _ rfl rfl).bind fun s₁ hs₁ => ?_
          exact (given_ends_unanswered htext _ hs₁.1 hs₁.2).bind_error
      | some text =>
          obtain ⟨text, last⟩ := text
          rw [Option.bind_some, htext]
          refine (given_ends hname _ rfl rfl).bind fun s₁ hs₁ => ?_
          refine (given_ends htext _ hs₁.1 hs₁.2).bind fun s₂ hs₂ => ?_
          refine Leaves.ends (leaves_given fun platforms => ?_) hs₂.1
          refine (isQuiet_say _).leaves_bind ((isQuiet_say _).leaves_bind
            ((isQuiet_say _).leaves_bind ((isQuiet_say _).leaves_bind
              ((isQuiet_say _).leaves_bind ?_))))
          refine (r.build_leaves (base.join name) name platforms canBegin t).bind_quiet ?_
          exact (isQuiet_say _).bind ((isQuiet_say _).bind ((isQuiet_say _).bind
            ((isQuiet_say _).bind (isQuiet_lines _))))

/-- A request does nothing, or it takes its steps in a directory that is free. -/
theorem emission_cases (r : InitRequest) (base : Project.Path) (canBegin : Bool)
    (replies : List String) (t : Tree) :
    r.emission base canBegin replies t = .nothing t ∨
      (∃ f, r.emission base canBegin replies t = .stopped t f) ∨
        ∃ answers platforms, r.answers? replies = some answers ∧
          free t (base.join answers.1) = .ok () ∧
          r.emission base canBegin replies t =
            stepsEmission (r.steps (base.join answers.1) answers.1 platforms canBegin) t := by
  rw [emission]
  cases hanswers : r.answers? replies with
  | none => exact Or.inl rfl
  | some answers =>
      right
      obtain ⟨name, text⟩ := answers
      dsimp only
      cases readPlatforms text with
      | error f => exact Or.inl ⟨f, rfl⟩
      | ok platforms =>
          rw [Emission.ofOutcome, buildEmission]
          cases hfree : free t (base.join name) with
          | error f => exact Or.inl ⟨f, rfl⟩
          | ok _ => exact Or.inr ⟨(name, text), platforms, rfl, hfree, rfl⟩

theorem emission_becomes (r : InitRequest) (base : Project.Path) (canBegin : Bool)
    (replies : List String) {t : Tree} (ht : t.WellFormed) :
    t.Becomes (r.emission base canBegin replies t).written
      (r.emission base canBegin replies t).tree := by
  rcases r.emission_cases base canBegin replies t with h | ⟨f, h⟩ | ⟨_, _, _, _, h⟩
  · rw [h]
    exact .refl ht
  · rw [h]
    exact .refl ht
  · rw [h]
    exact stepsEmission_becomes ht _

theorem refusesFirst_emission (r : InitRequest) (base : Project.Path) (canBegin : Bool)
    (replies : List String) (t : Tree) : (r.emission base canBegin replies t).RefusesFirst t := by
  rcases r.emission_cases base canBegin replies t with h | ⟨f, h⟩ | ⟨_, _, _, _, h⟩
  · rw [h]
    exact (Emission.neverRefuses_nothing t).refusesFirst
  · rw [h]
    exact Emission.refusesFirst_stopped t f
  · rw [h]
    exact (neverRefuses_stepsEmission _ t).refusesFirst

/-! ## The files of a new project are new -/

/-- The names of the files of a new project. -/
def fileNames : List String := [Config.fileName, ".gitignore", "README.md"]

theorem place_join_fileName (root : Project.Path) {name : String} (h : name ∈ fileNames) :
    (root.join name).place = root.place ++ [name] := by
  rw [fileNames, List.mem_cons, List.mem_cons, List.mem_singleton] at h
  rcases h with rfl | rfl | rfl
  · exact root.place_join_step (by decide) (by decide) (by decide)
  · exact root.place_join_step (by decide) (by decide) (by decide)
  · exact root.place_join_step (by decide) (by decide) (by decide)

theorem places_steps (r : InitRequest) (root : Project.Path) (name : String)
    (platforms : List String) (canBegin : Bool) :
    (((r.steps root name platforms canBegin).flatMap Step.writes).map (·.place)).Sublist
      (fileNames.map fun file => root.place ++ [file]) := by
  have hdirectories : (directorySteps root platforms).flatMap Step.writes = [] := by
    rw [directorySteps, List.flatMap_map]
    exact List.flatMap_eq_nil_iff.2 fun _ _ => rfl
  have hfile : ∀ file ∈ fileNames, ∀ text, ((fileStep root file text).writes).map (·.place) =
      [root.place ++ [file]] := by
    intro file hname text
    rw [fileStep, Step.writes, List.map_singleton, Output.write, place_join_fileName root hname]
  have hhistory : (((r.historySteps root canBegin).flatMap Step.writes).map (·.place)).Sublist
      [root.place ++ [".gitignore"]] := by
    rw [historySteps.eq_def]
    split
    · rw [List.flatMap_singleton, hfile _ (by decide)]
    · exact List.nil_sublist _
  have hconfig := hfile Config.fileName (by decide)
  have hreadme := hfile "README.md" (by decide)
  rw [steps, List.flatMap_append, List.flatMap_append, List.flatMap_append, List.flatMap_append,
    hdirectories, List.flatMap_singleton, List.flatMap_singleton, List.flatMap_singleton,
    List.map_append, List.map_append, List.map_append, List.map_append, hconfig, hreadme]
  exact (hhistory.append_right _).cons_cons _

theorem stepsEmission_fresh (r : InitRequest) {root : Project.Path} (name : String)
    (platforms : List String) (canBegin : Bool) {t : Tree} (hfree : t.IsFreeBelow root.place) :
    t.Fresh (stepsEmission (r.steps root name platforms canBegin) t).written := by
  have hwritten := written_stepsEmission (r.steps root name platforms canBegin) t
  have hplaces := (hwritten.sublist.map (·.place)).trans
    (r.places_steps root name platforms canBegin)
  constructor
  · refine hplaces.nodup (List.Nodup.map (fun a b h => ?_) (by decide))
    simpa using h
  · intro w hw
    obtain ⟨file, _, hplace⟩ := List.mem_map.1 (hplaces.subset (List.mem_map_of_mem hw))
    rw [← hplace]
    exact hfree file

/-- The path of a new project leads to something, or it does not lead back. -/
def IsPlain (t : Tree) (root : Project.Path) : Prop :=
  t.contains root = .ok true ∨ Path.up ∉ root.steps

/-- Nothing is below a directory that is free, unless its path is one that no file can have. -/
theorem isFreeBelow_of_free {t : Tree} (ht : t.WellFormed) {root : Project.Path}
    (hroot : IsPlain t root) (hfree : free t root = .ok ()) :
    t.IsFreeBelow root.place ∨ root.hasNull = true := by
  obtain ⟨found, hfound, hfree⟩ := bind_eq_ok_iff.1 hfree
  obtain ⟨isEmpty, hempty, hfree⟩ := bind_eq_ok_iff.1 hfree
  cases found with
  | true =>
      left
      cases isEmpty with
      | false => cases hfree
      | true => exact Tree.isFreeBelow_of_isEmptyDirectory ht hempty
  | false =>
      have hup : Path.up ∉ root.steps := by
        rcases hroot with hthere | hup
        · rw [hthere] at hfound
          cases hfound
        · exact hup
      cases hnull : root.hasNull with
      | false => exact Or.inl (Tree.isFreeBelow_of_contains ht hup hnull hfound)
      | true => exact Or.inr rfl

theorem stepsEmission_of_hasNull (r : InitRequest) {root : Project.Path} (name : String)
    (platforms : List String) (canBegin : Bool) (t : Tree) (hnull : root.hasNull = true) :
    (stepsEmission (r.steps root name platforms canBegin) t).written = [] := by
  have hstop : ((Step.directory root).emission t).fault = some (.nullInPath root.text) := by
    rw [Step.emission, Tree.makeDirectory, hnull]
    rfl
  rw [steps, stepsEmission_append, stepsEmission_singleton, Emission.andThen_of_fault hstop,
    Step.written_of_fault hstop]

theorem emission_fresh (r : InitRequest) {base : Project.Path} (canBegin : Bool)
    {replies : List String} {t : Tree} (ht : t.WellFormed)
    (hroot : ∀ answers, r.answers? replies = some answers → IsPlain t (base.join answers.1)) :
    t.Fresh (r.emission base canBegin replies t).written := by
  rcases r.emission_cases base canBegin replies t with h | ⟨f, h⟩ | ⟨answers, _, hanswers, hfree, h⟩
  · rw [h]
    exact t.fresh_nil
  · rw [h]
    exact t.fresh_nil
  · rw [h]
    rcases isFreeBelow_of_free ht (hroot answers hanswers) hfree with hbelow | hnull
    · exact r.stepsEmission_fresh _ _ canBegin hbelow
    · rw [r.stepsEmission_of_hasNull _ _ canBegin t hnull]
      exact t.fresh_nil

end InitRequest

/-! ## Runs -/

/-- The failure with which a request stops, if it does. -/
def Request.failure? (env : Environment) (t : Tree) (input : String) (request : Request) :
    Option Failure :=
  match ((request.perform env).perform ⟨t, [], typedLines input⟩).1 with
  | .error (.failed f) => some f
  | _ => none

/-- Does the request generate models? -/
def Request.isForModels : Request → Bool
  | .generate r => r.target == .model
  | _ => false

section

variable {env : Environment} {t : Tree} {input : String} {request : Request} {f : Failure}

theorem Request.tree_of_refusal {result : Except Stop Unit} {e : Emission}
    (hends : (request.perform env).Ends ⟨t, [], typedLines input⟩ result (Has e.tree))
    (hresult : ∀ f, result = .error (.failed f) → e.fault = some f) (he : e.RefusesFirst t)
    (hfailure : request.failure? env t input = some f) (hf : f.isRefusal = true) :
    ((request.perform env).perform ⟨t, [], typedLines input⟩).2.tree = t := by
  rw [failure?, hends.result] at hfailure
  have hfault : e.fault = some f := by
    split at hfailure
    · cases hfailure
      exact hresult f rfl
    · cases hfailure
  rw [show _ = e.tree from hends.session]
  exact he f hfault hf

theorem eq_of_ending {e : Emission} {f : Failure}
    (h : GenerateRequest.ending e = .error (.failed f)) : e.fault = some f := by
  rw [GenerateRequest.ending] at h
  split at h
  · cases h
  · rename_i hfault
    cases h
    exact hfault

theorem InitRequest.eq_of_ending {r : InitRequest} {replies : List String} {e : Emission}
    {f : Failure} (h : r.ending replies e = .error (.failed f)) : e.fault = some f := by
  rw [ending] at h
  split at h
  · cases h
  · exact Command.eq_of_ending h

theorem Request.tree_of_leaves {e : Emission} (hends : Leaves t (request.perform env) e)
    (he : e.RefusesFirst t) (hfailure : request.failure? env t input = some f)
    (hf : f.isRefusal = true) :
    ((request.perform env).perform ⟨t, [], typedLines input⟩).2.tree = t :=
  tree_of_refusal (hends _ rfl) (fun _ => eq_of_ending) he hfailure hf

end

theorem GenerateRequest.perform_leaves (r : GenerateRequest) (base : Project.Path) (t : Tree) :
    Leaves t (r.perform base) (r.emission base t) := by
  intro s hs
  have hends := r.perform_follows base t s hs
  rw [emission]
  cases hplan : r.plan base t with
  | error f =>
      rw [hplan] at hends
      exact hends
  | ok plan =>
      rw [hplan] at hends
      exact hends.mono fun _ hs => hs.tree

theorem IsQuiet.tree_eq {x : Activity Unit} (hx : IsQuiet x) (t : Tree) (replies : List String) :
    (x.perform ⟨t, [], replies⟩).2.tree = t :=
  (hx t ⟨t, [], replies⟩ rfl).session

theorem CreateRequest.perform_isQuiet (r : CreateRequest) : IsQuiet r.perform :=
  (isQuiet_say _).bind ((isQuiet_say _).bind ((isQuiet_say _).bind
    ((isQuiet_say _).bind (isQuiet_lines _))))

/-- What a request leaves of the files. What is refused is refused before a file is changed, unless
models are generated, whose schemas are read one after the other. A new project keeps all files if
and only if what it writes over one of them at last is its own text, and it does so if the path of
the project leads to something or does not lead back. -/
theorem run_refusesFirst (env : Environment) {t : Tree} (ht : t.WellFormed) (input : String)
    (words : List String) :
    (∀ request f, Request.read words = .ok request → request.isForModels = false →
        request.failure? env t input = some f → f.isRefusal = true →
          (run env t input words).tree = t) ∧
      ∀ r, Request.read words = .ok (.init r) →
        (t.KeepsFiles (run env t input words).tree ↔ t.Restores
          (r.emission env.directory env.canBeginHistory (typedLines input) t).written) ∧
        ((∀ answers, r.answers? (typedLines input) = some answers →
            InitRequest.IsPlain t (env.directory.join answers.1)) →
          t.KeepsFiles (run env t input words).tree) := by
  constructor
  · intro request f hread hmodels hfailure hf
    rw [run_tree_of_read hread]
    cases request with
    | init r =>
        exact Request.tree_of_refusal (r.perform_ends _ _ t _) (fun _ => r.eq_of_ending)
          (r.refusesFirst_emission _ _ _ t) hfailure hf
    | generate r =>
        have htarget : r.target ≠ .model := by
          intro hmodel
          rw [Request.isForModels, hmodel] at hmodels
          cases hmodels
        exact Request.tree_of_leaves (r.perform_leaves env.directory t)
          (GenerateRequest.refusesFirst_emission htarget env.directory t) hfailure hf
    | component r =>
        exact Request.tree_of_leaves (r.perform_leaves env.directory t)
          (r.refusesFirst_emission env.directory t) hfailure hf
    | plugin r =>
        exact Request.tree_of_leaves (r.perform_leaves env.directory t)
          (r.refusesFirst_emission env.directory t) hfailure hf
    | create r => exact r.perform_isQuiet.tree_eq t _
    | add type => exact ((isQuiet_say _).bind (isQuiet_say _)).tree_eq t _
    | validate => exact ((isQuiet_say _).bind (isQuiet_say _)).tree_eq t _
  · intro r hread
    have htree : (run env t input words).tree =
        (r.emission env.directory env.canBeginHistory (typedLines input) t).tree :=
      (run_tree_of_read hread).trans (r.perform_ends _ _ t _).session
    have hkept := (r.emission_becomes env.directory env.canBeginHistory (typedLines input)
      ht).keepsFiles_iff
    rw [htree]
    exact ⟨hkept, fun hroot => hkept.2 (r.emission_fresh env.canBeginHistory ht hroot).restores⟩

/-- A directory with a file, beside another one with a file. -/
def folder : Tree where
  entries :=
    [(["work"], .directory),
      (["work", "README.md"], .file "mine"),
      (["work", "demo"], .directory),
      (["work", "demo", "notes.txt"], .file "keep")]

/-- The words that ask for a new project. -/
def initWords (name : String) : List String := ["init", name, "-p", "ios", "--no-git"]

theorem wellFormed_folder : folder.WellFormed := by
  refine Tree.wellFormed_of_entries fun entry hentry => ?_
  simp only [folder, List.mem_cons, List.not_mem_nil, or_false] at hentry
  rcases hentry with rfl | rfl | rfl | rfl <;> rfl

/-- A project is refused in a directory with a file, and keeps all files in a new one. -/
theorem refusesFirst_folder :
    folder.WellFormed ∧ (run projectPlace folder "" (initWords "demo")).tree = folder ∧
      folder.KeepsFiles (run projectPlace folder "" (initWords "shop")).tree := by
  have ht := wellFormed_folder
  refine ⟨ht, ?_, ?_⟩
  · exact (run_refusesFirst projectPlace ht "" (initWords "demo")).1 _ (.taken "demo") rfl rfl
      rfl rfl
  · refine ((run_refusesFirst projectPlace ht "" (initWords "shop")).2 _ rfl).2 ?_
    rintro answers hanswers
    cases hanswers
    right
    decide

/-- The path of the new project leads back through a directory that is not there at first, and a
file is written over. -/
theorem not_keepsFiles_folder :
    ∃ r, Request.read (initWords "x/..") = .ok (.init r) ∧ folder.WellFormed ∧
      (run projectPlace folder "" (initWords "x/..")).status = 0 ∧
      ¬ folder.KeepsFiles (run projectPlace folder "" (initWords "x/..")).tree := by
  refine ⟨_, rfl, wellFormed_folder, by decide +kernel, fun hkept => ?_⟩
  have hfile := hkept ["work", "README.md"] "mine" (by decide +kernel)
  revert hfile
  decide +kernel

end Command

end SpecForge
