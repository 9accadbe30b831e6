import SpecForge.Proofs.Command.KeptFiles
import SpecForge.Proofs.Project.Present

/-!
# The order of the files of a request

What stands at a place behind a run depends on the place alone: each file of the request makes it a
directory, or a file, or leaves it. Where files are kept only the first file of a place counts, and
otherwise the last one. So the order of files with different places makes no difference, if the run
goes well and writes over no file that is to be kept.
-/

namespace SpecForge.Command

open Project

namespace GenerateRequest

variable {r : GenerateRequest} {t : Tree} {place : List String}

/-! ## One place -/

/-- What stands at a place when a file has been dealt with, given what stood there before. -/
def entryAfter (r : GenerateRequest) (place : List String) (e : Option Entry) (o : Output) :
    Option Entry :=
  if e = some .directory ∨ place ∈ o.target.waypoints then some .directory
  else if place = o.target.place ∧ (r.overwrite = true ∨ e = none) then some (.file o.file.text)
  else e

/-- A file that is kept leaves every place as it is. -/
theorem entryAfter_of_kept (ht : t.WellFormed) (hover : r.overwrite = false) {o : Output}
    (h : t.contains o.target = .ok true) (place : List String) :
    r.entryAfter place (t.get? place) o = t.get? place := by
  obtain ⟨there, hlook, hthere⟩ := bind_eq_ok_iff.1 h
  obtain ⟨⟨here, e⟩, rfl⟩ := Option.isSome_iff_exists.1 (Except.ok.inj hthere)
  obtain ⟨hplace, hget⟩ := Tree.find_eq_entry ht (Tree.look_eq_some_iff.1 hlook).2
  rw [entryAfter]
  split
  · rename_i hdirectory
    rcases hdirectory with hdirectory | hway
    · exact hdirectory.symm
    · exact (Tree.get?_of_mem_waypoints ht hlook hway).symm
  · split
    · rename_i hnew
      obtain ⟨heq, hover' | hfree⟩ := hnew
      · rw [hover] at hover'
        cases hover'
      · rw [heq, ← hplace, hget] at hfree
        cases hfree
    · rfl

/-- A file that is written makes directories on its way and stands at its place. -/
theorem entryAfter_of_write (ht : t.WellFormed) {o : Output}
    (hw : (t.write o.target o.file.text).fault = none)
    (hkept : r.overwrite = true ∨ t.get? o.target.place = none) (place : List String) :
    r.entryAfter place (t.get? place) o = (t.write o.target o.file.text).tree.get? place := by
  have hfree : t.get? o.target.place ≠ some .directory :=
    (Tree.write_becomes ht hw).free _ (List.mem_singleton_self _)
  rw [Tree.get?_write ht hw, entryAfter]
  by_cases hway : place ∈ o.target.waypoints
  · rw [if_pos hway, if_pos (.inr hway)]
  · rw [if_neg hway]
    by_cases hdirectory : t.get? place = some .directory
    · have hne : place ≠ o.target.place := by
        rintro rfl
        exact hfree hdirectory
      rw [if_neg hne, if_pos (.inl hdirectory), hdirectory]
    · rw [if_neg (not_or.2 ⟨hdirectory, hway⟩)]
      by_cases heq : place = o.target.place
      · rw [if_pos heq, if_pos ⟨heq, by rwa [heq]⟩]
      · rw [if_neg heq, if_neg fun h => heq h.1]

theorem get?_fileEmission (ht : t.WellFormed) (hdry : r.isDryRun = false) {o : Output}
    (hfault : (r.fileEmission o t).fault = none)
    (hkept : r.overwrite = true ∨ t.Fresh (r.fileEmission o t).written) (place : List String) :
    (r.fileEmission o t).tree.get? place = r.entryAfter place (t.get? place) o := by
  cases hc : t.contains o.target with
  | error f =>
      rw [fileEmission, hc] at hfault
      cases hfault
  | ok found =>
      by_cases hkeep : (found && !r.overwrite) = true
      · have he : r.fileEmission o t = .nothing t := by
          simp only [fileEmission, hc, hkeep, Bool.true_or, if_true]
        rw [Bool.and_eq_true, Bool.not_eq_true'] at hkeep
        obtain ⟨rfl, hover⟩ := hkeep
        rw [he, entryAfter_of_kept ht hover hc]
        rfl
      · rw [Bool.not_eq_true] at hkeep
        cases hw : (t.write o.target o.file.text).fault with
        | some f =>
            rw [fileEmission] at hfault
            simp only [hc, hkeep, hdry, hw, Bool.or_false, Bool.false_eq_true, if_false] at hfault
            cases hfault
        | none =>
            have he : r.fileEmission o t =
                ⟨(t.write o.target o.file.text).tree, [o.write], none⟩ := by
              simp only [fileEmission, hc, hkeep, hdry, hw, Bool.or_false, Bool.false_eq_true,
                if_false]
            rw [he] at hkept ⊢
            have hfree : r.overwrite = true ∨ t.get? o.target.place = none :=
              hkept.imp_right fun hfresh => hfresh.free _ (List.mem_singleton_self _)
            exact (entryAfter_of_write ht hw hfree place).symm

/-! ## A run over files -/

/-- The files of a list that there are. -/
def given (os : List (Outcome Output)) : List Output := os.filterMap Except.toOption

/-- What is written behind fresh writes is fresh as well. -/
theorem fresh_of_append {u v : Tree} {ws rest : List Write} (h : t.Fresh (ws ++ rest))
    (hu : t.Becomes ws u) (hv : u.Becomes rest v) : u.Fresh rest := by
  have hnodup := h.nodup
  rw [List.map_append, List.nodup_append] at hnodup
  refine ⟨hnodup.2.1, fun w hw => ?_⟩
  have hnone : lastText w.place ws = none := by
    rw [lastText_eq_none_iff]
    exact fun hmem => hnodup.2.2 _ hmem _ (List.mem_map_of_mem hw) rfl
  rcases hu.kept w.place hnone with hsame | ⟨_, hdirectory⟩
  · rw [hsame]
    exact h.free w (List.mem_append_right ws hw)
  · exact absurd hdirectory (hv.free w hw)

/-- What stands at a place behind a run that goes well. -/
theorem get?_filesEmission (ht : t.WellFormed) (hdry : r.isDryRun = false)
    {os : List (Outcome Output)} (hfault : (r.filesEmission os t).fault = none)
    (hkept : r.overwrite = true ∨ t.Fresh (r.filesEmission os t).written) (place : List String) :
    (r.filesEmission os t).tree.get? place =
      (given os).foldl (r.entryAfter place) (t.get? place) := by
  induction os generalizing t with
  | nil => rfl
  | cons first os ih =>
      cases first with
      | error f => cases hfault
      | ok o =>
          have hcovers := (fileEmission_covers (r := r) ht o).becomes
          have hrest := (filesEmission_covers (r := r) hcovers.wellFormed os).becomes
          rw [filesEmission] at hfault hkept ⊢
          cases hfirst : (r.fileEmission o t).fault with
          | some f =>
              rw [Emission.andThen_of_fault hfirst, hfirst] at hfault
              cases hfault
          | none =>
              rw [Emission.andThen_of_none hfirst] at hfault hkept ⊢
              have hone : r.overwrite = true ∨ t.Fresh (r.fileEmission o t).written := by
                refine hkept.imp_right fun hfresh => ?_
                have hnodup := hfresh.nodup
                rw [List.map_append, List.nodup_append] at hnodup
                exact ⟨hnodup.1, fun w hw => hfresh.free w (List.mem_append_left _ hw)⟩
              have hlater := hkept.imp_right fun hfresh => fresh_of_append hfresh hcovers hrest
              rw [ih hcovers.wellFormed hfault hlater,
                get?_fileEmission ht hdry hfirst hone]
              rfl

/-! ## Lists with the same files at every place -/

/-- The text of a file that goes to a place. -/
def textAt (place : List String) (o : Output) : Option String :=
  if o.target.place = place then some o.file.text else none

/-- A text that is written unless a file is to be kept. -/
def textAfter (r : GenerateRequest) (e : Option Entry) (text : String) : Option Entry :=
  if r.overwrite = true ∨ e = none then some (.file text) else e

theorem textAfter_ne_directory {e : Option Entry} (he : e ≠ some .directory) (text : String) :
    r.textAfter e text ≠ some .directory := by
  rw [textAfter]
  split
  · exact fun h => by cases h
  · exact he

theorem foldl_entryAfter_directory (os : List Output) :
    os.foldl (r.entryAfter place) (some .directory) = some .directory := by
  induction os with
  | nil => rfl
  | cons o os ih =>
      rw [List.foldl_cons, entryAfter, if_pos (.inl rfl)]
      exact ih

/-- A place is a directory if a path leads through it, and otherwise its files count. -/
theorem foldl_entryAfter {os : List Output} {e : Option Entry} (he : e ≠ some .directory) :
    os.foldl (r.entryAfter place) e =
      if ∃ o ∈ os, place ∈ o.target.waypoints then some .directory
      else (os.filterMap (textAt place)).foldl r.textAfter e := by
  induction os generalizing e with
  | nil => rw [if_neg (by simp)]; rfl
  | cons o os ih =>
      rw [List.foldl_cons, entryAfter]
      by_cases hway : place ∈ o.target.waypoints
      · rw [if_pos (.inr hway), if_pos ⟨o, List.mem_cons_self, hway⟩]
        exact foldl_entryAfter_directory os
      · have hexists : (∃ o' ∈ o :: os, place ∈ o'.target.waypoints) ↔
            ∃ o' ∈ os, place ∈ o'.target.waypoints := by
          rw [List.exists_mem_cons_iff, or_iff_right hway]
        rw [if_neg (not_or.2 ⟨he, hway⟩)]
        simp only [hexists]
        by_cases hplace : place = o.target.place
        · have htext : textAt place o = some o.file.text := by
            rw [textAt, if_pos hplace.symm]
          rw [List.filterMap_cons_some htext, List.foldl_cons,
            ← ih (textAfter_ne_directory he _), textAfter]
          simp only [hplace, true_and]
        · have htext : textAt place o = none := by
            rw [textAt, if_neg (Ne.symm hplace)]
          rw [List.filterMap_cons_none htext, if_neg fun h => hplace h.1]
          exact ih he

/-- Two lists with the same files that have the same texts, in the same order, at every place. -/
structure Agree (os os' : List Output) : Prop where
  mem : ∀ o, o ∈ os ↔ o ∈ os'
  texts : ∀ place, os.filterMap (textAt place) = os'.filterMap (textAt place)

theorem Agree.refl (os : List Output) : Agree os os := ⟨fun _ => .rfl, fun _ => rfl⟩

theorem Agree.append {os os' rest rest' : List Output} (h : Agree os os')
    (hrest : Agree rest rest') : Agree (os ++ rest) (os' ++ rest') := by
  constructor
  · intro o
    rw [List.mem_append, List.mem_append, h.mem, hrest.mem]
  · intro place
    rw [List.filterMap_append, List.filterMap_append, h.texts, hrest.texts]

theorem Agree.flatMap {α : Type} {f g : α → List Output} (h : ∀ a, Agree (f a) (g a))
    (l : List α) : Agree (l.flatMap f) (l.flatMap g) := by
  induction l with
  | nil => exact .refl []
  | cons a l ih =>
      rw [List.flatMap_cons, List.flatMap_cons]
      exact (h a).append ih

/-- Lists agree in any order if all files of one place have one text. -/
theorem agree_of_perm {os os' : List Output} (h : os.Perm os')
    (hsame : ∀ o ∈ os, ∀ o' ∈ os, o.target.place = o'.target.place → o = o') : Agree os os' := by
  refine ⟨fun o => h.mem_iff, fun place => ?_⟩
  have hperm := h.filterMap (textAt place)
  have hmem : ∀ text ∈ os.filterMap (textAt place), ∃ o ∈ os, o.target.place = place ∧
      text = o.file.text := by
    intro text htext
    obtain ⟨o, ho, htext⟩ := List.mem_filterMap.1 htext
    rw [textAt] at htext
    split at htext
    · rename_i hplace
      cases htext
      exact ⟨o, ho, hplace, rfl⟩
    · cases htext
  cases hl : os.filterMap (textAt place) with
  | nil =>
      rw [hl] at hperm
      exact hperm.nil_eq
  | cons first texts =>
      have hall : ∀ text ∈ os.filterMap (textAt place), text = first := by
        intro text htext
        obtain ⟨o, ho, hplace, rfl⟩ := hmem text htext
        obtain ⟨o', ho', hplace', rfl⟩ := hmem first (by rw [hl]; exact List.mem_cons_self)
        rw [hsame o ho o' ho' (hplace.trans hplace'.symm)]
      have hreplicate := List.eq_replicate_of_mem hall
      rw [← hl]
      rw [hreplicate] at hperm ⊢
      exact List.replicate_perm.1 hperm

theorem Agree.foldl_eq {os os' : List Output} (h : Agree os os') (e : Option Entry) :
    os.foldl (r.entryAfter place) e = os'.foldl (r.entryAfter place) e := by
  by_cases he : e = some .directory
  · rw [he, foldl_entryAfter_directory, foldl_entryAfter_directory]
  · rw [foldl_entryAfter he, foldl_entryAfter he, h.texts]
    simp only [h.mem]

/-- Runs over lists that agree come to the same, if they go well and write over no file that is to
be kept. -/
theorem Agree.get?_filesEmission {os os' : List (Outcome Output)} (h : Agree (given os) (given os'))
    (ht : t.WellFormed) (hfault : (r.filesEmission os t).fault = none)
    (hfault' : (r.filesEmission os' t).fault = none)
    (hkept : r.isDryRun = true ∨ r.overwrite = true ∨
      t.Fresh (r.filesEmission os t).written ∧ t.Fresh (r.filesEmission os' t).written)
    (place : List String) :
    (r.filesEmission os t).tree.get? place = (r.filesEmission os' t).tree.get? place := by
  cases hdry : r.isDryRun with
  | true => rw [filesEmission_dry hdry, filesEmission_dry hdry]
  | false =>
      have hkept := hkept.resolve_left (by rw [hdry]; exact Bool.false_ne_true)
      rw [GenerateRequest.get?_filesEmission ht hdry hfault (hkept.imp_right And.left),
        GenerateRequest.get?_filesEmission ht hdry hfault' (hkept.imp_right And.right), h.foldl_eq]

end GenerateRequest

end SpecForge.Command
