import SpecForge.Generator
import SpecForge.Project.Source
import SpecForge.Proofs.Outcome
import SpecForge.Proofs.Project.Writes

/-!
# Schema files behind writes

The files of a directory that hold schemas are told by their ending, and no source file has this
ending. So writing source files changes none of them.
-/

namespace SpecForge.Project

/-- A source file was written. -/
def Write.IsSource (w : Write) : Prop :=
  ∃ (here : List String) (stem : String) (p : Platform), w.place = here ++ [stem ++ p.fileExtension]

theorem endsWith_fileExtension (stem : String) (p : Platform) :
    Text.endsWith (stem ++ p.fileExtension) ".json" = false := by
  cases p <;> simp [Text.endsWith, Text.beginsWith, Platform.fileExtension]

namespace Tree

/-- The path was found among the files of the directory at a place. -/
structure Lists (t : Tree) (source : Path) (here : List String) (p : Path) : Prop where
  directory : t.follow [] source.steps = .entry here .directory
  eq : p = { source with steps := source.steps ++ [p.name] }
  ending : Text.endsWith p.name ".json" = true
  present : t.get? (here ++ [p.name]) ≠ none

theorem get?_of_mem_names {t : Tree} {here : List String} {name : String}
    (h : name ∈ t.names here) : t.get? (here ++ [name]) ≠ none := by
  rw [names, List.mem_filterMap] at h
  obtain ⟨entry, hentry, hname⟩ := h
  split at hname
  · rename_i hhere
    rw [beq_iff_eq] at hhere
    have hplace : entry.1.dropLast ++ [name] = entry.1 := List.dropLast_append_getLast? name hname
    rw [hhere] at hplace
    rw [get?_eq_lookup t (by simp), ne_eq, List.lookup_eq_none_iff]
    intro hnone
    have hne := hnone entry hentry
    rw [hplace] at hne
    simp at hne
  · cases hname

theorem follow_of_look {t : Tree} {p : Path} {place : List String} {e : Entry}
    (h : t.look p = .ok (some (place, e))) : t.follow [] p.steps = .entry place e := by
  obtain ⟨_, hfind⟩ := look_eq_some_iff.1 h
  rw [find] at hfind
  split at hfind
  · cases hfind
  · exact hfind

theorem name_concat (p : Path) (name : String) :
    ({ p with steps := p.steps ++ [name] } : Path).name = name := by
  rw [Path.name, List.getLastD_concat]

/-- The files with schemas: a single path, or files that were found in a directory. -/
theorem schemaFiles_cases {t : Tree} {source : Path} {model : Option String} {schemas : List Path}
    (h : t.schemaFiles source model = .ok schemas) :
    schemas = [source] ∨ ∃ here, ∀ p ∈ schemas, t.Lists source here p := by
  rw [schemaFiles] at h
  obtain ⟨found, hlook, h⟩ := bind_eq_ok_iff.1 h
  split at h
  · rename_i here
    right
    cases h
    refine ⟨here, fun p hp => ?_⟩
    obtain ⟨name, hname, rfl⟩ := List.mem_map.1 hp
    have hall : name ∈
        ((t.names here).filter fun n => Text.endsWith n ".json").mergeSort (· ≤ ·) := by
      cases model with
      | none => exact hname
      | some m =>
          dsimp only at hname
          split at hname
          · exact hname
          · exact List.mem_of_mem_filter hname
    rw [List.mem_mergeSort, List.mem_filter] at hall
    constructor
    · exact follow_of_look hlook
    · rw [name_concat]
    · rw [name_concat]
      exact hall.2
    · rw [name_concat]
      exact get?_of_mem_names hall.1
  · left
    cases h
    rfl

theorem Lists.eq_of_name {t : Tree} {source p q : Path} {here : List String}
    (hp : t.Lists source here p) (hq : t.Lists source here q) (h : p.name = q.name) : p = q := by
  rw [hp.eq, hq.eq, h]

/-- No name has a slash in it, as in every system. -/
def NamesLackSlash (t : Tree) : Prop := ∀ entry ∈ t.entries, ∀ step ∈ entry.1, '/' ∉ step.toList

theorem NamesLackSlash.not_mem {t : Tree} (h : t.NamesLackSlash) {here : List String}
    {name : String} (hp : t.get? (here ++ [name]) ≠ none) : '/' ∉ name.toList := by
  rw [get?_eq_lookup t (by simp), ne_eq, List.lookup_eq_none_iff] at hp
  obtain ⟨entry, hne⟩ := Classical.not_forall.1 hp
  obtain ⟨hentry, hkey⟩ := Classical.not_imp.1 hne
  have hplace : here ++ [name] = entry.1 := by
    simpa using hkey
  refine h entry hentry name ?_
  rw [← hplace]
  exact List.mem_append_right _ (List.mem_singleton_self name)

/-- Files with schemas are as before when source files were written. -/
theorem Becomes.find_of_lists {t u : Tree} {ws : List Write} (h : t.Becomes ws u)
    (hws : ∀ w ∈ ws, w.IsSource) {source p : Path} {here : List String}
    (hp : t.Lists source here p) : u.find p = t.find p := by
  have hnone : lastText (here ++ [p.name]) ws = none := by
    rw [lastText_eq_none_iff]
    intro hmem
    obtain ⟨w, hw, hplace⟩ := List.mem_map.1 hmem
    obtain ⟨other, stem, platform, hsource⟩ := hws w hw
    rw [hsource] at hplace
    have hname : stem ++ platform.fileExtension = p.name := by
      have hlast := congrArg List.getLast? hplace
      simpa using hlast
    have hending := hp.ending
    rw [← hname, endsWith_fileExtension] at hending
    cases hending
  have hget : u.get? (here ++ [p.name]) = t.get? (here ++ [p.name]) := by
    rcases h.kept _ hnone with hsame | ⟨habsent, _⟩
    · exact hsame
    · exact absurd habsent hp.present
  have hsteps : p.steps = source.steps ++ [p.name] := congrArg Path.steps hp.eq
  have hone : u.follow here [p.name] = t.follow here [p.name] := by
    simp only [follow, hget]
  rw [find, find, hsteps, follow_append hp.directory,
    follow_append (h.follow_directory hp.directory), hone]

theorem Becomes.document_of_lists {t u : Tree} {ws : List Write} (h : t.Becomes ws u)
    (hws : ∀ w ∈ ws, w.IsSource) {source p : Path} {here : List String}
    (hp : t.Lists source here p) : u.document p = t.document p := by
  rw [document, document, read, read, look, look, h.find_of_lists hws hp]

end Tree

end SpecForge.Project
