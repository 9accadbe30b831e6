import SpecForge.Proofs.Model.FreshName
import SpecForge.Proofs.Project.Writes

/-!
# Names that stay inside a directory

A name is joined to a directory as a text, so it may lead anywhere: a slash at its beginning leads
to the root, and steps to the parent lead out of the directory. The names that stay inside every
directory are those that do neither.
-/

namespace SpecForge.Project

namespace Path

/-- Do the steps never lead above the place where they begin, so many levels up? -/
def stepsStayBelow : Nat → List String → Bool
  | _, [] => true
  | depth, step :: rest =>
    if step == up then 0 < depth && stepsStayBelow (depth - 1) rest
    else stepsStayBelow (depth + 1) rest

/-- A name that begins at no root and never leads above the directory that it is joined to. -/
structure StaysBelow (s : String) : Prop where
  relative : Text.startsWith s "/" = false
  below : stepsStayBelow 0 (stepsOf s) = true

instance (s : String) : Decidable (StaysBelow s) :=
  decidable_of_iff (Text.startsWith s "/" = false ∧ stepsStayBelow 0 (stepsOf s) = true)
    ⟨fun h => ⟨h.1, h.2⟩, fun h => ⟨h.relative, h.below⟩⟩

theorem mem_settle {step : String} {taken steps : List String} (h : step ∈ settle taken steps) :
    step ∈ taken ∨ step ∈ steps := by
  induction steps generalizing taken with
  | nil =>
      left
      simpa [settle] using h
  | cons first steps ih =>
      by_cases hup : first = up
      · rw [hup, settle_up] at h
        rcases ih h with ht | hs
        · exact .inl (List.mem_of_mem_tail ht)
        · exact .inr (List.mem_cons_of_mem _ hs)
      · rw [settle_cons hup] at h
        rcases ih h with ht | hs
        · rcases List.mem_cons.1 ht with rfl | ht
          · exact .inr List.mem_cons_self
          · exact .inl ht
        · exact .inr (List.mem_cons_of_mem _ hs)

/-- Steps that stay below a place leave what was taken before it as it is. -/
theorem prefix_settle (taken base : List String) {steps : List String}
    (h : stepsStayBelow taken.length steps = true) :
    base.reverse <+: settle (taken ++ base) steps := by
  induction steps generalizing taken with
  | nil => simp [settle]
  | cons step steps ih =>
      rw [stepsStayBelow] at h
      by_cases hup : step = up
      · simp only [hup, beq_self_eq_true, if_true, Bool.and_eq_true, decide_eq_true_eq] at h
        rw [hup, settle_up]
        cases taken with
        | nil => exact absurd h.1 (lt_irrefl 0)
        | cons first taken => exact ih taken h.2
      · simp only [beq_eq_false_iff_ne.2 hup, Bool.false_eq_true, if_false] at h
        rw [settle_cons hup]
        exact ih (step :: taken) h

/-- Steps that lead above a place take away what led to it. -/
theorem not_mem_settle {step : String} (taken : List String) {steps : List String}
    (ht : step ∉ taken)
    (hs : step ∉ steps) (h : stepsStayBelow taken.length steps = false) :
    step ∉ settle (taken ++ [step]) steps := by
  induction steps generalizing taken with
  | nil => cases h
  | cons first steps ih =>
      rw [List.mem_cons, not_or] at hs
      rw [stepsStayBelow] at h
      by_cases hup : first = up
      · simp only [hup, beq_self_eq_true, if_true] at h
        rw [hup, settle_up]
        cases taken with
        | nil =>
            -- this step takes the mark away, and no later one brings it back
            intro hmem
            rcases mem_settle hmem with hmem | hmem
            · exact absurd hmem List.not_mem_nil
            · exact hs.2 hmem
        | cons last taken =>
            exact ih taken (fun hmem => ht (List.mem_cons_of_mem _ hmem)) hs.2 (by simpa using h)
      · simp only [beq_eq_false_iff_ne.2 hup, Bool.false_eq_true, if_false] at h
        rw [settle_cons hup]
        refine ih (first :: taken) ?_ hs.2 h
        rw [List.mem_cons, not_or]
        exact ⟨hs.1, ht⟩

theorem StaysBelow.prefix_place {s : String} (h : StaysBelow s) (dir : Path) :
    dir.place <+: (dir.join s).place := by
  rw [place, place, join, h.relative]
  simp only [Bool.false_eq_true, if_false]
  rw [settle_append]
  have hprefix := prefix_settle [] (settle [] dir.steps).reverse h.below
  simpa using hprefix

theorem exists_fresh_step (steps : List String) : ∃ step, step ∉ steps ∧ step ≠ up := by
  have h := freshName_not_mem (up :: steps) "step"
  rw [List.mem_cons, not_or] at h
  exact ⟨_, h.2, h.1⟩

/-- The names that stay inside every directory. -/
theorem staysBelow_iff {s : String} :
    StaysBelow s ↔ ∀ dir : Path, dir.place <+: (dir.join s).place := by
  constructor
  · exact fun h dir => h.prefix_place dir
  · intro h
    obtain ⟨step, hfresh, hup⟩ := exists_fresh_step (stepsOf s)
    -- no name leads back to this directory once it has left it
    have hplace : (ofSteps [step]).place = [step] := by
      rw [place, ofSteps, settle_cons hup]
      rfl
    have hmem : step ∈ ((ofSteps [step]).join s).place := by
      have hprefix := h (ofSteps [step])
      rw [hplace] at hprefix
      exact hprefix.subset List.mem_cons_self
    have hrelative : Text.startsWith s "/" = false := by
      by_contra habsolute
      rw [Bool.not_eq_false] at habsolute
      rw [join, if_pos habsolute, place] at hmem
      rcases mem_settle hmem with hmem | hmem
      · exact absurd hmem List.not_mem_nil
      · exact hfresh hmem
    refine ⟨hrelative, ?_⟩
    by_contra hbelow
    rw [Bool.not_eq_true] at hbelow
    have hnot := not_mem_settle [] List.not_mem_nil hfresh hbelow
    rw [join, hrelative] at hmem
    exact hnot (settle_cons hup [] (stepsOf s) ▸ hmem)

end Path

namespace Tree

/-- The files that are new or have another text. -/
def changedFiles (t u : Tree) : Set (List String) :=
  {place | ∃ text, u.get? place = some (.file text) ∧ t.get? place ≠ some (.file text)}

/-- Where there was nothing and is no directory now, there is a new file. -/
theorem mem_changedFiles_of_new {t u : Tree} {place : List String} (hnew : t.get? place = none)
    (hthere : u.get? place ≠ none) (hfile : u.get? place ≠ some .directory) :
    place ∈ t.changedFiles u := by
  obtain ⟨e, he⟩ := Option.ne_none_iff_exists'.1 hthere
  cases e with
  | directory => exact absurd he hfile
  | file text =>
      refine ⟨text, he, ?_⟩
      rw [hnew]
      exact fun h => by cases h

/-- Only a file that was written has changed. -/
theorem Becomes.mem_places_of_changed {t u : Tree} {ws : List Write} (h : t.Becomes ws u)
    {place : List String} (hp : place ∈ t.changedFiles u) : place ∈ ws.map (·.place) := by
  obtain ⟨text, hu, ht⟩ := hp
  by_contra hmem
  rcases h.kept place (lastText_eq_none_iff.2 hmem) with hkept | ⟨_, hdir⟩
  · exact ht (hkept ▸ hu)
  · rw [hdir] at hu
    cases hu

end Tree

end SpecForge.Project
