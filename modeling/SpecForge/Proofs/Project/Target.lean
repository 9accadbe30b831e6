import SpecForge.Command.Generate
import SpecForge.Proofs.Project.Tree
import SpecForge.Proofs.Text.Split

/-!
# Where generated files go

A generated file goes to a directory that is known before, and its name is what its steps end with.
If the name does not lead back, the path to the file leads back nowhere, but for the path that the
command began with.
-/

namespace SpecForge.Project

namespace Path

/-- The last step of a name with an ending has the ending. -/
theorem stepsOf_append (name : String) {ending : String} (hslash : '/' ∉ ending.toList)
    (hlong : 1 < ending.toList.length) :
    ∃ steps last, stepsOf (name ++ ending) = steps ++ [last ++ ending] := by
  obtain ⟨parts, part, _, hparts⟩ := Text.splitChars_append hslash name.toList
  have hlast : String.ofList (part ++ ending.toList) = String.ofList part ++ ending := by
    rw [String.ofList_append, String.ofList_toList]
  have hlength : (String.ofList part ++ ending).toList.length =
      part.length + ending.toList.length := by
    simp
  have hempty : String.ofList part ++ ending ≠ "" := by
    intro h
    rw [h] at hlength
    have hzero : "".toList.length = 0 := rfl
    omega
  have hdot : String.ofList part ++ ending ≠ "." := by
    intro h
    rw [h] at hlength
    have hone : ".".toList.length = 1 := rfl
    omega
  refine ⟨((parts.map String.ofList).filter fun step => step != "" && step != "."),
    String.ofList part, ?_⟩
  rw [stepsOf, Text.split, String.toList_append, hparts, List.map_append, List.filter_append,
    List.map_singleton, hlast]
  simp [hempty, hdot]

theorem steps_join (p : Path) (s : String) :
    (p.join s).steps = stepsOf s ∨ (p.join s).steps = p.steps ++ stepsOf s := by
  rw [join]
  split
  · exact Or.inl rfl
  · exact Or.inr rfl

/-- The place of a path whose last step does not lead back ends with this step. -/
theorem place_concat {p : Path} {steps : List String} {last : String}
    (hp : p.steps = steps ++ [last]) (hl : last ≠ up) : p.place = settle [] steps ++ [last] := by
  rw [place, hp, settle_append, settle_cons hl]
  simp [settle]

/-- A file whose name ends like that of a source file is written to a place that ends so. -/
theorem place_join_fileExtension (dir : Path) (name : String) (p : Platform) :
    ∃ here stem,
      (dir.join (name ++ p.fileExtension)).place = here ++ [stem ++ p.fileExtension] := by
  have hslash : '/' ∉ p.fileExtension.toList := by
    cases p <;> decide
  have hlong : 2 < p.fileExtension.toList.length := by
    cases p <;> decide
  obtain ⟨steps, stem, hsteps⟩ := stepsOf_append name hslash (by omega)
  have hup : stem ++ p.fileExtension ≠ up := by
    intro h
    have hlength := congrArg (fun s => s.toList.length) h
    simp only [String.toList_append, List.length_append] at hlength
    have htwo : up.toList.length = 2 := rfl
    omega
  rcases steps_join dir (name ++ p.fileExtension) with h | h
  · rw [hsteps] at h
    exact ⟨_, stem, place_concat h hup⟩
  · rw [hsteps, ← List.append_assoc] at h
    exact ⟨_, stem, place_concat h hup⟩

/-- Places that end as source files do are those of one platform if they are the same. -/
theorem platform_of_place {here here' : List String} {stem stem' : String} {p p' : Platform}
    (h : here ++ [stem ++ p.fileExtension] = here' ++ [stem' ++ p'.fileExtension]) : p = p' := by
  have hlast := congrArg List.getLast? h
  simp only [List.getLast?_concat, Option.some.injEq] at hlast
  have hreverse : p.fileExtension.toList.reverse ++ stem.toList.reverse =
      p'.fileExtension.toList.reverse ++ stem'.toList.reverse := by
    have hchars := congrArg (fun s => s.toList.reverse) hlast
    simpa using hchars
  cases p <;> cases p' <;> first | rfl | simp [Platform.fileExtension] at hreverse

/-! ## Paths that lead straight to a place -/

/-- From the root, or from a path that is there, the path does not lead back. -/
def IsDirectFrom (base p : Path) : Prop :=
  ∃ rest, up ∉ rest ∧ (p.steps = rest ∨ p.steps = base.steps ++ rest)

theorem isDirectFrom_self (base : Path) : base.IsDirectFrom base :=
  ⟨[], List.not_mem_nil, Or.inr (List.append_nil _).symm⟩

theorem isDirectFrom_resolve (base p : Path) : base.IsDirectFrom p.resolve :=
  ⟨p.resolve.steps, up_not_mem_resolve p, Or.inl rfl⟩

theorem IsDirectFrom.join {base p : Path} (h : base.IsDirectFrom p) {s : String}
    (hs : up ∉ stepsOf s) : base.IsDirectFrom (p.join s) := by
  rcases steps_join p s with hsteps | hsteps
  · exact ⟨stepsOf s, hs, Or.inl hsteps⟩
  · obtain ⟨rest, hrest, hp⟩ := h
    refine ⟨rest ++ stepsOf s, ?_, ?_⟩
    · rw [List.mem_append, not_or]
      exact ⟨hrest, hs⟩
    · rcases hp with hp | hp
      · left
        rw [hsteps, hp]
      · right
        rw [hsteps, hp, List.append_assoc]

theorem IsDirectFrom.joinAll {base p : Path} (h : base.IsDirectFrom p) {parts : List String}
    (hparts : ∀ s ∈ parts, up ∉ stepsOf s) : base.IsDirectFrom (p.joinAll parts) := by
  induction parts generalizing p with
  | nil => exact h
  | cons s parts ih =>
      rw [List.forall_mem_cons] at hparts
      exact ih (h.join hparts.1) hparts.2

end Path

namespace Layout

open SpecForge.Project.Path

/-- No directory of the layout leads back. -/
theorem up_not_mem_layout (target : Target) (p : Platform) :
    ∀ s ∈ sourceRoot p ++ [folder target p], up ∉ stepsOf s := by
  cases target <;> cases p <;> decide

/-- The directory for a platform. -/
theorem isDirectFrom_directory {base : Path} {target : Target} {p : Platform}
    {requested : Option String} {generation : Option Generation} {dir : Path}
    (h : directory base target p.name requested generation = .ok dir) : base.IsDirectFrom dir := by
  unfold directory resolvedOr at h
  split at h
  · rw [resolved] at h
    split at h
    · cases h
    · cases h
      exact isDirectFrom_resolve base _
  · cases h
    have hname : Platform.ofName? p.name = some p := by
      cases p <;> rfl
    rw [place, hname]
    exact (isDirectFrom_self base).joinAll (up_not_mem_layout target p)

end Layout

namespace Tree

open SpecForge.Project.Path

/-- Before something that a path leads to there are directories. -/
theorem follow_prefix {t : Tree} {here steps rest place : List String} {e : Entry}
    (h : t.follow here (steps ++ rest) = .entry place e) (hr : rest ≠ []) :
    ∃ mid, t.follow here steps = .entry mid .directory := by
  induction steps generalizing here with
  | nil => exact ⟨here, rfl⟩
  | cons step steps ih =>
      rw [List.cons_append] at h
      by_cases hs : step = up
      · rw [hs, follow_up] at h
        rw [hs, follow_up]
        exact ih h
      · obtain ⟨hl, ⟨hget, hrest⟩ | ⟨_, _, hnil, _⟩⟩ := follow_cons_cases hs h
        · rw [follow_directory hs hl hget]
          exact ih hrest
        · exact absurd (List.append_eq_nil_iff.1 hnil).2 hr

/-- A path that does not lead back leads to what stands at its place, unless it is refused. -/
theorem find_of_isDirectFrom {t : Tree} (ht : t.WellFormed) {base p : Path} {here : List String}
    (hbase : t.follow [] base.steps = .entry here .directory) (hp : base.IsDirectFrom p)
    {e : Entry} (he : t.get? p.place = some e) :
    t.find p = .entry p.place e ∨ t.find p = .tooLong := by
  rw [find]
  split
  · exact Or.inr rfl
  · obtain ⟨rest, hrest, hsteps | hsteps⟩ := hp
    · have hplace : p.place = [] ++ rest := by
        rw [place, hsteps, settle_of_not_mem hrest]
        rfl
      rw [hplace] at he ⊢
      rw [hsteps]
      exact follow_of_get? ht hrest (get?_nil t) he
    · obtain ⟨hhere, hdir⟩ := follow_eq_entry ht (get?_nil t) hbase
      have hplace : p.place = here ++ rest := by
        rw [place, hsteps, settle_append, settle_of_not_mem hrest, List.reverse_reverse, hhere]
        rfl
      rw [hplace] at he ⊢
      rw [hsteps, follow_append hbase]
      exact follow_of_get? ht hrest hdir he

end Tree

end SpecForge.Project
