import SpecForge.Proofs.Project.Target
import SpecForge.Proofs.Project.Writes

/-!
# Writing where directories are

A path that leads to a directory needs no directory to be made. So a file can be written wherever
one is already, and under any name that is free in a directory.
-/

namespace SpecForge.Project

namespace Path

theorem exists_text_eq_parent (p : Path) : ∃ rest, p.text = p.parent.text ++ rest := by
  obtain ⟨steps, isDoubled⟩ := p
  rcases List.eq_nil_or_concat steps with rfl | ⟨init, last, rfl⟩
  · exact ⟨"", (String.append_empty).symm⟩
  · rw [parent, List.concat_eq_append, List.dropLast_concat, text, text]
    by_cases hinit : init = []
    · rw [hinit]
      exact ⟨last, by simp⟩
    · rw [String.intercalate_append_of_ne_nil hinit (List.cons_ne_nil _ _)]
      exact ⟨"/" ++ "/".intercalate [last], by simp only [String.append_assoc]⟩

theorem hasNull_parent {p : Path} (h : p.hasNull = false) : p.parent.hasNull = false := by
  obtain ⟨rest, hrest⟩ := p.exists_text_eq_parent
  rw [hasNull, hrest, String.toList_append, List.contains_eq_any_beq, List.any_append,
    Bool.or_eq_false_iff] at h
  rw [hasNull, List.contains_eq_any_beq]
  exact h.1

theorem isTooLong_parent {p : Path} (h : p.isTooLong = false) : p.parent.isTooLong = false := by
  obtain ⟨rest, hrest⟩ := p.exists_text_eq_parent
  rw [isTooLong, decide_eq_false_iff_not, hrest, String.utf8ByteSize_append] at h
  rw [isTooLong, decide_eq_false_iff_not]
  omega

end Path

namespace Tree

open SpecForge.Project.Path

/-- What stands before something that a path leads to is a directory. -/
theorem find_parent {t : Tree} {p : Path} {place : List String} {e : Entry}
    (h : t.find p = .entry place e) (hne : p.steps ≠ []) :
    ∃ mid, t.find p.parent = .entry mid .directory ∧ t.follow mid [p.name] = .entry place e := by
  rw [find] at h
  split at h
  · cases h
  · rename_i hlong
    have hsteps : p.steps = p.parent.steps ++ [p.name] := by
      rw [Path.parent, name, List.getLastD_eq_getLast?, List.getLast?_eq_some_getLast hne,
        Option.getD_some, List.dropLast_concat_getLast hne]
    rw [hsteps] at h
    obtain ⟨mid, hmid⟩ := follow_prefix h (List.cons_ne_nil _ _)
    refine ⟨mid, ?_, ?_⟩
    · rw [find, isTooLong_parent (by simpa using hlong)]
      exact hmid
    · rwa [follow_append hmid] at h

theorem makeOne_of_find {t : Tree} {p : Path} {place : List String}
    (h : t.find p = .entry place .directory) : t.makeOne p = .present := by
  rw [makeOne]
  split
  · rfl
  · rename_i last hlast
    have hne : p.steps ≠ [] := by
      intro hnil
      rw [hnil] at hlast
      cases hlast
    have hname : p.name = last := by
      rw [name, List.getLastD_eq_getLast?, hlast, Option.getD_some]
    obtain ⟨mid, hmid, hstep⟩ := find_parent h hne
    rw [hmid]
    dsimp only
    rw [hname] at hstep
    by_cases hup : last = up
    · rw [if_pos (by simp [hup])]
    · obtain ⟨_, ⟨hget, _⟩ | ⟨_, _, _, _, he⟩⟩ := follow_cons_cases hup hstep
      · rw [if_pos (by simp [hget])]
      · cases he

/-- A directory that is there need not be made. -/
theorem makeDirectory_of_find {t : Tree} {p : Path} {place : List String}
    (h : t.find p = .entry place .directory) (hnull : p.hasNull = false) :
    t.makeDirectory p = t.done := by
  have hdirectory : t.isDirectory p = true := by
    rw [isDirectory, h]
  have hlast : t.makeLast p = t.done := by
    rw [makeLast, makeOne_of_find h]
    dsimp only
    rw [if_pos hdirectory]
  rw [makeDirectory, hnull, if_neg Bool.false_ne_true]
  rcases hsteps : p.steps.reverse with _ | ⟨step, before⟩
  · rfl
  · have hself : ({ p with steps := (step :: before).reverse } : Path) = p := by
      rw [← hsteps, List.reverse_reverse]
    rw [makeFrom, hself, makeOne_of_find h]
    exact hlast

/-- A file can be written where one is. -/
theorem fault_write_of_file {t : Tree} {p : Path} {place : List String} {old : String}
    (h : t.look p = .ok (some (place, .file old))) (text : String) :
    (t.write p text).fault = none := by
  obtain ⟨hnull, hfind⟩ := look_eq_some_iff.1 h
  have hne : p.steps ≠ [] := by
    intro hnil
    rw [find, hnil] at hfind
    split at hfind
    · cases hfind
    · cases hfind
  obtain ⟨mid, hmid, _⟩ := find_parent hfind hne
  rw [write, makeDirectory_of_find hmid (hasNull_parent hnull)]
  show (t.writeLast p text).fault = none
  rw [writeLast, hnull, if_neg Bool.false_ne_true, hfind]
  rfl

/-- A file can be written in a directory where nothing is. -/
theorem fault_write_of_missing {t : Tree} {p : Path} {place : List String}
    (hparent : t.find p.parent = .entry place .directory) (hnull : p.hasNull = false)
    (h : t.find p = .missing) (text : String) : (t.write p text).fault = none := by
  rw [write, makeDirectory_of_find hparent (hasNull_parent hnull)]
  show (t.writeLast p text).fault = none
  rw [writeLast, hnull, if_neg Bool.false_ne_true, h]
  dsimp only
  rw [hparent]
  rfl

end Tree

/-! ## The directories that a written file needs

Before a file is written, directories are made wherever its path leads through and none is, and
nowhere else. So what stands at a place behind the write is told by the path, the text and what
stood there before. -/

namespace Path

/-- The places that a path leads through. -/
def waypoints (p : Path) : List (List String) := p.parent.steps.inits.map (settle [])

theorem mem_waypoints {p : Path} {place : List String} :
    place ∈ p.waypoints ↔ ∃ front, front <+: p.parent.steps ∧ settle [] front = place := by
  simp only [waypoints, List.mem_map, List.mem_inits]

end Path

namespace Tree

open SpecForge.Project.Path

variable {t : Tree} {p : Path}

/-! ### Only waypoints are made -/

/-- The second tree differs from the first one at the place of the beginning of a path only. -/
def DiffersAlong (t u : Tree) (steps : List String) : Prop :=
  ∀ place, u.get? place = t.get? place ∨ ∃ front, front <+: steps ∧ settle [] front = place

theorem DiffersAlong.refl (t : Tree) (steps : List String) : t.DiffersAlong t steps :=
  fun _ => .inl rfl

theorem DiffersAlong.mono {u : Tree} {steps longer : List String} (h : t.DiffersAlong u steps)
    (hsteps : steps <+: longer) : t.DiffersAlong u longer := by
  intro place
  rcases h place with hsame | ⟨front, hfront, hplace⟩
  · exact .inl hsame
  · exact .inr ⟨front, hfront.trans hsteps, hplace⟩

theorem DiffersAlong.trans {u v : Tree} {steps : List String} (htu : t.DiffersAlong u steps)
    (huv : u.DiffersAlong v steps) : t.DiffersAlong v steps := by
  intro place
  rcases huv place with hsame | hfront
  · rw [hsame]
    exact htu place
  · exact .inr hfront

theorem makeOne_differsAlong (ht : t.WellFormed) {u : Tree} (h : t.makeOne p = .made u) :
    t.DiffersAlong u p.steps := by
  rw [makeOne] at h
  split at h
  · cases h
  · rename_i name hlast
    split at h
    · cases h
    · cases h
    · cases h
    · cases h
    · rename_i here hfind
      split at h
      · cases h
      · rename_i hpresent
        split at h
        · cases h
        · cases h
          rw [Bool.or_eq_true, beq_iff_eq, not_or] at hpresent
          obtain ⟨hhere, _⟩ := find_eq_entry ht hfind
          have hsteps : p.steps = p.parent.steps ++ [name] :=
            (List.dropLast_append_getLast? name hlast).symm
          have hplace : p.place = here ++ [name] := by
            rw [place_concat hsteps hpresent.1, hhere]
            rfl
          intro other
          rw [get?_put t (by simp)]
          by_cases heq : other = here ++ [name]
          · exact .inr ⟨p.steps, List.prefix_refl _, by rw [heq, ← hplace]; rfl⟩
          · left
            rw [if_neg heq]

theorem makeLast_differsAlong (ht : t.WellFormed) (p : Path) :
    t.DiffersAlong (t.makeLast p).tree p.steps := by
  rw [makeLast]
  split
  · rename_i u hmade
    exact makeOne_differsAlong ht hmade
  · split
    · exact .refl t _
    · exact .refl t _
  · exact .refl t _
  · exact .refl t _
  · exact .refl t _

theorem makeFrom_differsAlong (ht : t.WellFormed) (written : Path) (steps : List String) :
    t.DiffersAlong (t.makeFrom written steps).tree steps.reverse := by
  induction steps with
  | nil => exact .refl t _
  | cons step before ih =>
      have hbefore : before.reverse <+: (step :: before).reverse := by
        rw [List.reverse_cons]
        exact List.prefix_append _ _
      rw [makeFrom]
      split
      · rw [Change.andThen]
        split
        · have hmade := makeFrom_prepares ht written before
          exact (ih.mono hbefore).trans (makeLast_differsAlong hmade.wellFormed _)
        · exact ih.mono hbefore
      · exact makeLast_differsAlong ht _

theorem makeDirectory_differsAlong (ht : t.WellFormed) (p : Path) :
    t.DiffersAlong (t.makeDirectory p).tree p.steps := by
  rw [makeDirectory]
  split
  · exact .refl t _
  · have hmade := makeFrom_differsAlong ht p p.steps.reverse
    rwa [List.reverse_reverse] at hmade

/-! ### Every waypoint is a directory -/

/-- A path that leads to something leads through directories. -/
theorem get?_of_mem_waypoints (ht : t.WellFormed) {place : List String} {e : Entry}
    (h : t.look p = .ok (some (place, e))) {other : List String} (hother : other ∈ p.waypoints) :
    t.get? other = some .directory := by
  obtain ⟨front, ⟨rest, hfront⟩, rfl⟩ := mem_waypoints.1 hother
  have hmid : ∃ mid, t.follow [] p.parent.steps = .entry mid .directory := by
    by_cases hnil : p.steps = []
    · refine ⟨[], ?_⟩
      rw [Path.parent, hnil]
      rfl
    · obtain ⟨mid, hmid, _⟩ := find_parent (look_eq_some_iff.1 h).2 hnil
      rw [find] at hmid
      split at hmid
      · cases hmid
      · exact ⟨mid, hmid⟩
  obtain ⟨mid, hmid⟩ := hmid
  have hhere : ∃ here, t.follow [] front = .entry here .directory := by
    by_cases hrest : rest = []
    · rw [hrest, List.append_nil] at hfront
      exact ⟨mid, by rw [hfront]; exact hmid⟩
    · rw [← hfront] at hmid
      exact follow_prefix hmid hrest
  obtain ⟨here, hhere⟩ := hhere
  obtain ⟨hplace, hget⟩ := follow_eq_entry ht (get?_nil t) hhere
  rwa [hplace] at hget

/-- What stands at a place when a file has been written. -/
theorem get?_write (ht : t.WellFormed) {text : String} (h : (t.write p text).fault = none)
    (place : List String) :
    (t.write p text).tree.get? place =
      if place ∈ p.waypoints then some .directory
      else if place = p.place then some (.file text) else t.get? place := by
  have hwritten := write_becomes ht h
  by_cases hway : place ∈ p.waypoints
  · rw [if_pos hway]
    exact get?_of_mem_waypoints hwritten.wellFormed (look_write ht h) hway
  · rw [if_neg hway]
    have hmade := makeDirectory_prepares ht p.parent
    have hsame : (t.makeDirectory p.parent).tree.get? place = t.get? place := by
      rcases makeDirectory_differsAlong ht p.parent place with hsame | hfront
      · exact hsame
      · exact absurd (mem_waypoints.2 hfront) hway
    rw [write, Change.andThen] at h ⊢
    split at h
    · rcases writeLast_cases hmade.wellFormed p text with ⟨_, hput⟩ | ⟨hfault, _⟩
      · rw [hput.get?, hsame]
      · exact absurd h hfault
    · rename_i hfault
      rw [hfault] at h
      cases h

end Tree

end SpecForge.Project
