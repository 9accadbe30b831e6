import SpecForge.Project.Tree

/-!
# What changes to a file tree leave as it is

In a tree as a system has it, everything stands in a directory. There a path that leads to something
leads to the place that its text says. Making directories changes nothing else, and writing a file
changes only the place of the file.
-/

namespace SpecForge.Project

namespace Path

/-- The place that a path leads to by its text. -/
def place (p : Path) : List String := settle [] p.steps

theorem settle_up (taken steps : List String) :
    settle taken (up :: steps) = settle taken.tail steps := by
  simp [settle]

theorem settle_cons {step : String} (h : step ≠ up) (taken steps : List String) :
    settle taken (step :: steps) = settle (step :: taken) steps := by
  simp [settle, h]

theorem settle_append (taken steps rest : List String) :
    settle taken (steps ++ rest) = settle (settle taken steps).reverse rest := by
  induction steps generalizing taken with
  | nil => simp [settle]
  | cons step steps ih =>
      rw [List.cons_append]
      by_cases h : step = up
      · rw [h, settle_up, settle_up, ih]
      · rw [settle_cons h, settle_cons h, ih]

theorem settle_of_not_mem {steps : List String} (h : up ∉ steps) (taken : List String) :
    settle taken steps = taken.reverse ++ steps := by
  induction steps generalizing taken with
  | nil => simp [settle]
  | cons step steps ih =>
      rw [List.mem_cons, not_or] at h
      rw [settle_cons (Ne.symm h.1), ih h.2, List.reverse_cons, List.append_assoc]
      rfl

end Path

namespace Tree

open SpecForge.Project.Path

/-- Whatever there is stands in a directory. -/
def WellFormed (t : Tree) : Prop :=
  ∀ place, t.get? place ≠ none → t.get? place.dropLast = some .directory

theorem get?_eq_lookup (t : Tree) {place : List String} (h : place ≠ []) :
    t.get? place = t.entries.lookup place := by
  cases place with
  | nil => exact absurd rfl h
  | cons step rest => rfl

theorem wellFormed_of_entries {t : Tree}
    (h : ∀ entry ∈ t.entries, t.get? entry.1.dropLast = some .directory) : t.WellFormed := by
  intro place hplace
  by_cases hnil : place = []
  · rw [hnil]
    rfl
  · rw [get?_eq_lookup t hnil, ne_eq, List.lookup_eq_none_iff] at hplace
    obtain ⟨entry, hne⟩ := Classical.not_forall.1 hplace
    obtain ⟨hentry, hkey⟩ := Classical.not_imp.1 hne
    rw [show place = entry.1 by simpa using hkey]
    exact h entry hentry

@[simp] theorem get?_nil (t : Tree) : t.get? [] = some .directory := rfl

theorem WellFormed.parent {t : Tree} (h : t.WellFormed) {place : List String} {name : String}
    (hp : t.get? (place ++ [name]) ≠ none) : t.get? place = some .directory := by
  have hparent := h _ hp
  rwa [List.dropLast_concat] at hparent

/-- Whatever there is stands below directories only. -/
theorem WellFormed.above {t : Tree} (h : t.WellFormed) {place rest : List String}
    (hp : t.get? (place ++ rest) ≠ none) (hr : rest ≠ []) : t.get? place = some .directory := by
  induction rest generalizing place with
  | nil => exact absurd rfl hr
  | cons step rest ih =>
      cases rest with
      | nil => exact h.parent hp
      | cons next rest =>
          have hnext : t.get? (place ++ [step] ++ next :: rest) ≠ none := by
            rwa [List.append_assoc]
          have hstep := ih hnext (List.cons_ne_nil _ _)
          exact h.parent (by rw [hstep]; exact Option.some_ne_none _)

/-! ## Following a path -/

theorem follow_up (t : Tree) (here steps : List String) :
    t.follow here (up :: steps) = t.follow here.dropLast steps := by
  simp [follow]

/-- Is the step refused for its length? -/
def isLong (step : String) : Bool := longestStep < step.utf8ByteSize

theorem follow_directory {t : Tree} {here : List String} {step : String} (hs : step ≠ up)
    (hl : isLong step = false) (hget : t.get? (here ++ [step]) = some .directory)
    (steps : List String) : t.follow here (step :: steps) = t.follow (here ++ [step]) steps := by
  have hl : ¬ longestStep < step.utf8ByteSize := by
    simpa [isLong] using hl
  rw [follow, if_neg (by simpa using hs), if_neg hl, hget]

theorem follow_singleton_file {t : Tree} {here : List String} {step text : String} (hs : step ≠ up)
    (hl : isLong step = false) (hget : t.get? (here ++ [step]) = some (.file text)) :
    t.follow here [step] = .entry (here ++ [step]) (.file text) := by
  have hl : ¬ longestStep < step.utf8ByteSize := by
    simpa [isLong] using hl
  rw [follow, if_neg (by simpa using hs), if_neg hl, hget]
  rfl

/-- A step that is followed leads to a directory, or to a file at the end of the path. -/
theorem follow_cons_cases {t : Tree} {here steps place : List String} {step : String} {e : Entry}
    (hs : step ≠ up) (h : t.follow here (step :: steps) = .entry place e) :
    isLong step = false ∧
      ((t.get? (here ++ [step]) = some .directory ∧
          t.follow (here ++ [step]) steps = .entry place e) ∨
        ∃ text, t.get? (here ++ [step]) = some (.file text) ∧ steps = [] ∧
          place = here ++ [step] ∧ e = .file text) := by
  rw [follow, if_neg (by simpa using hs)] at h
  split at h
  · cases h
  · rename_i hl
    refine ⟨by simpa [isLong] using hl, ?_⟩
    split at h
    · cases h
    · rename_i hget
      exact Or.inl ⟨hget, h⟩
    · rename_i text hget
      split at h
      · rename_i hempty
        cases h
        exact Or.inr ⟨text, hget, List.isEmpty_iff.1 hempty, rfl, rfl⟩
      · cases h

theorem follow_append {t : Tree} {here steps place : List String}
    (h : t.follow here steps = .entry place .directory) (rest : List String) :
    t.follow here (steps ++ rest) = t.follow place rest := by
  induction steps generalizing here with
  | nil =>
      cases h
      rfl
  | cons step steps ih =>
      by_cases hs : step = up
      · rw [hs, follow_up] at h
        rw [hs, List.cons_append, follow_up, ih h]
      · obtain ⟨hl, ⟨hget, hrest⟩ | ⟨text, _, _, _, he⟩⟩ := follow_cons_cases hs h
        · rw [List.cons_append, follow_directory hs hl hget, ih hrest]
        · cases he

/-- What a path leads to stands at the place that the path says. -/
theorem follow_eq_entry {t : Tree} (ht : t.WellFormed) {here steps place : List String} {e : Entry}
    (hh : t.get? here = some .directory) (h : t.follow here steps = .entry place e) :
    place = settle here.reverse steps ∧ t.get? place = some e := by
  induction steps generalizing here with
  | nil =>
      cases h
      exact ⟨by simp [settle], hh⟩
  | cons step steps ih =>
      by_cases hs : step = up
      · rw [hs, follow_up] at h
        have hparent := ht here (by rw [hh]; exact Option.some_ne_none _)
        rw [hs, settle_up, List.tail_reverse]
        exact ih hparent h
      · rw [settle_cons hs]
        obtain ⟨_, ⟨hget, hrest⟩ | ⟨text, hget, rfl, rfl, rfl⟩⟩ := follow_cons_cases hs h
        · have hplace := ih hget hrest
          rwa [List.reverse_append] at hplace
        · exact ⟨by simp [settle], hget⟩

/-- Where nothing leads back, a path leads to what stands at its place, unless it is refused. -/
theorem follow_of_get? {t : Tree} (ht : t.WellFormed) {here steps : List String} {e : Entry}
    (hup : up ∉ steps) (hh : t.get? here = some .directory) (he : t.get? (here ++ steps) = some e) :
    t.follow here steps = .entry (here ++ steps) e ∨ t.follow here steps = .tooLong := by
  induction steps generalizing here with
  | nil =>
      left
      rw [List.append_nil, hh] at he
      cases he
      rw [follow, List.append_nil]
  | cons step steps ih =>
      rw [List.mem_cons, not_or] at hup
      have hs : ¬ (step == up) = true := by
        simpa using Ne.symm hup.1
      have hassoc : here ++ step :: steps = here ++ [step] ++ steps := by simp
      by_cases hl : longestStep < step.utf8ByteSize
      · right
        rw [follow, if_neg hs, if_pos hl]
      · rw [hassoc] at he ⊢
        rw [follow, if_neg hs, if_neg hl]
        by_cases hrest : steps = []
        · left
          subst hrest
          rw [List.append_nil] at he ⊢
          rw [he]
          cases e with
          | directory => rfl
          | file text => rfl
        · have hget := ht.above (by rw [he]; exact Option.some_ne_none e) hrest
          rw [hget]
          exact ih hup.2 hget he

/-- The place of a path that leads to something. -/
theorem find_eq_entry {t : Tree} (ht : t.WellFormed) {p : Path} {place : List String} {e : Entry}
    (h : t.find p = .entry place e) : place = p.place ∧ t.get? place = some e := by
  rw [find] at h
  split at h
  · cases h
  · exact follow_eq_entry ht (get?_nil t) h

theorem look_eq_some_iff {t : Tree} {p : Path} {place : List String} {e : Entry} :
    t.look p = .ok (some (place, e)) ↔ p.hasNull = false ∧ t.find p = .entry place e := by
  rw [look]
  cases hnull : p.hasNull with
  | true => simp
  | false => cases hfind : t.find p <;> simp

theorem contains_of_look {t : Tree} {p : Path} {found : Option (List String × Entry)}
    (h : t.look p = .ok found) : t.contains p = .ok found.isSome := by
  rw [contains, h]
  rfl

theorem read_of_look {t : Tree} {p : Path} {place : List String} {text : String}
    (h : t.look p = .ok (some (place, .file text))) : t.read p = .ok (some text) := by
  rw [read, h]
  rfl

/-! ## Making directories -/

/-- A place is as before, or a directory was made there. -/
def Kept (before after : Option Entry) : Prop :=
  after = before ∨ before = none ∧ after = some .directory

theorem Kept.trans {a b c : Option Entry} (hab : Kept a b) (hbc : Kept b c) : Kept a c := by
  rcases hab with rfl | ⟨hn, rfl⟩
  · exact hbc
  · rcases hbc with rfl | ⟨hn', _⟩
    · exact Or.inr ⟨hn, rfl⟩
    · cases hn'

theorem Kept.eq_some {a b : Option Entry} (h : Kept a b) {e : Entry} (ha : a = some e) :
    b = some e := by
  rcases h with rfl | ⟨hn, _⟩
  · exact ha
  · rw [hn] at ha
    cases ha

/-- Directories were made, and nothing else. -/
def AddsDirectories (t u : Tree) : Prop := ∀ place, Kept (t.get? place) (u.get? place)

theorem AddsDirectories.refl (t : Tree) : t.AddsDirectories t := fun _ => Or.inl rfl

theorem AddsDirectories.trans {t u v : Tree} (htu : t.AddsDirectories u)
    (huv : u.AddsDirectories v) : t.AddsDirectories v := fun place => (htu place).trans (huv place)

/-- A well-formed tree to which only directories were added. -/
structure Prepares (t u : Tree) : Prop where
  wellFormed : u.WellFormed
  adds : t.AddsDirectories u

theorem Prepares.refl {t : Tree} (ht : t.WellFormed) : t.Prepares t := ⟨ht, .refl t⟩

theorem Prepares.trans {t u v : Tree} (htu : t.Prepares u) (huv : u.Prepares v) : t.Prepares v :=
  ⟨huv.wellFormed, htu.adds.trans huv.adds⟩

/-- Whatever is put where nothing or a file was, in a directory, leaves the tree well-formed. -/
theorem WellFormed.put {t : Tree} (ht : t.WellFormed) {place : List String} {e : Entry}
    (hne : place ≠ []) (hparent : t.get? place.dropLast = some .directory)
    (hfree : t.get? place ≠ some .directory) : (t.put place e).WellFormed := by
  intro other ho
  have hlast : place.dropLast ≠ place := by
    intro h
    rw [h] at hparent
    exact hfree hparent
  rw [get?_put t hne]
  rw [get?_put t hne] at ho
  by_cases heq : other = place
  · rw [heq, if_neg hlast]
    exact hparent
  · rw [if_neg heq] at ho
    have hdir := ht other ho
    have hother : other.dropLast ≠ place := by
      intro h
      rw [h] at hdir
      exact hfree hdir
    rw [if_neg hother]
    exact hdir

theorem prepares_put {t : Tree} (ht : t.WellFormed) {place : List String} {name : String}
    (hp : t.get? place = some .directory) (hn : t.get? (place ++ [name]) = none) :
    t.Prepares (t.put (place ++ [name]) .directory) := by
  have hne : place ++ [name] ≠ [] := by simp
  constructor
  · refine ht.put hne ?_ ?_
    · rwa [List.dropLast_concat]
    · rw [hn]
      exact (Option.some_ne_none _).symm
  · intro other
    rw [get?_put t hne]
    by_cases heq : other = place ++ [name]
    · right
      rw [if_pos heq, heq]
      exact ⟨hn, rfl⟩
    · left
      rw [if_neg heq]

theorem makeOne_eq_made {t : Tree} (ht : t.WellFormed) {p : Path} {u : Tree}
    (h : t.makeOne p = .made u) : t.Prepares u := by
  rw [makeOne] at h
  split at h
  · cases h
  · split at h
    · cases h
    · cases h
    · cases h
    · cases h
    · rename_i name _ place hfind
      split at h
      · cases h
      · rename_i hpresent
        split at h
        · cases h
        · cases h
          rw [Bool.or_eq_true, not_or, Option.not_isSome_iff_eq_none] at hpresent
          exact prepares_put ht (find_eq_entry ht hfind).2 hpresent.2

/-- What is left of a change that makes directories, whether it stops or not. -/
theorem makeLast_prepares {t : Tree} (ht : t.WellFormed) (p : Path) :
    t.Prepares (t.makeLast p).tree := by
  rw [makeLast]
  split
  · rename_i u hmade
    exact makeOne_eq_made ht hmade
  · split
    · exact .refl ht
    · exact .refl ht
  · exact .refl ht
  · exact .refl ht
  · exact .refl ht

theorem Change.andThen_prepares {t : Tree} {c : Change} {next : Tree → Change}
    (hc : t.Prepares c.tree) (hnext : ∀ u : Tree, u.WellFormed → u.Prepares (next u).tree) :
    t.Prepares (c.andThen next).tree := by
  rw [Change.andThen]
  split
  · exact hc.trans (hnext c.tree hc.wellFormed)
  · exact hc

theorem makeFrom_prepares {t : Tree} (ht : t.WellFormed) (written : Path) (steps : List String) :
    t.Prepares (t.makeFrom written steps).tree := by
  induction steps with
  | nil => exact .refl ht
  | cons step before ih =>
      rw [makeFrom]
      split
      · exact Change.andThen_prepares ih fun u hu => makeLast_prepares hu _
      · exact makeLast_prepares ht _

theorem makeDirectory_prepares {t : Tree} (ht : t.WellFormed) (p : Path) :
    t.Prepares (t.makeDirectory p).tree := by
  rw [makeDirectory]
  split
  · exact .refl ht
  · exact makeFrom_prepares ht p _

/-! ## Writing a file -/

/-- A file was put at a place where no directory is. -/
structure PutsFile (t : Tree) (place : List String) (text : String) (u : Tree) : Prop where
  ne_nil : place ≠ []
  parent : t.get? place.dropLast = some .directory
  free : t.get? place ≠ some .directory
  eq : u = t.put place (.file text)

theorem PutsFile.get? {t u : Tree} {place : List String} {text : String}
    (h : t.PutsFile place text u) (other : List String) :
    u.get? other = if other = place then some (.file text) else t.get? other := by
  rw [h.eq, get?_put t h.ne_nil]

theorem PutsFile.wellFormed {t u : Tree} (ht : t.WellFormed) {place : List String} {text : String}
    (h : t.PutsFile place text u) : u.WellFormed := by
  rw [h.eq]
  exact ht.put h.ne_nil h.parent h.free

/-- A single step that leads nowhere does not lead back and is not refused, and nothing is where it
leads. -/
theorem follow_singleton_eq_missing {t : Tree} {here : List String} {step : String}
    (h : t.follow here [step] = .missing) :
    step ≠ up ∧ isLong step = false ∧ t.get? (here ++ [step]) = none := by
  rw [follow] at h
  split at h
  · cases h
  · rename_i hs
    split at h
    · cases h
    · rename_i hl
      split at h
      · rename_i hget
        exact ⟨fun heq => hs (by simp [heq]), by simpa [isLong] using hl, hget⟩
      · cases h
      · cases h

/-- Where a path leads nowhere although its parent is a directory, it is one step longer, and that
step is one that a file can be written to. -/
structure LacksLast (t : Tree) (p : Path) (here : List String) : Prop where
  steps : p.steps = p.parent.steps ++ [p.name]
  name_ne_up : p.name ≠ up
  isShort : isLong p.name = false
  directory : t.get? here = some .directory
  free : t.get? (here ++ [p.name]) = none
  place : p.place = here ++ [p.name]

theorem lacksLast_of_find {t : Tree} (ht : t.WellFormed) {p : Path} {parent : List String}
    (hm : t.find p = .missing) (hp : t.find p.parent = .entry parent .directory) :
    t.LacksLast p parent := by
  obtain ⟨hplace, hdir⟩ := find_eq_entry ht hp
  rw [find] at hm hp
  split at hm
  · cases hm
  · split at hp
    · cases hp
    · have hne : p.steps ≠ [] := by
        intro hnil
        rw [hnil] at hm
        cases hm
      have hsteps : p.steps = p.parent.steps ++ [p.name] := by
        rw [Path.parent, name, List.getLastD_eq_getLast?, List.getLast?_eq_some_getLast hne,
          Option.getD_some, List.dropLast_concat_getLast hne]
      rw [hsteps, follow_append hp] at hm
      obtain ⟨hs, hl, hnone⟩ := follow_singleton_eq_missing hm
      refine ⟨hsteps, hs, hl, hdir, hnone, ?_⟩
      have hparent : settle [] p.parent.steps = parent := hplace.symm
      rw [Path.place, hsteps, settle_append, hparent, settle_cons hs]
      simp [settle]

theorem writeLast_cases {t : Tree} (ht : t.WellFormed) (p : Path) (text : String) :
    ((t.writeLast p text).fault = none ∧ t.PutsFile p.place text (t.writeLast p text).tree) ∨
      ((t.writeLast p text).fault ≠ none ∧ (t.writeLast p text).tree = t) := by
  rw [writeLast]
  split
  · exact Or.inr ⟨Option.some_ne_none _, rfl⟩
  · split
    · rename_i place old hfind
      left
      obtain ⟨rfl, hget⟩ := find_eq_entry ht hfind
      refine ⟨rfl, ?_, ?_, ?_, rfl⟩
      · intro hnil
        rw [hnil] at hget
        cases hget
      · exact ht _ (by rw [hget]; exact Option.some_ne_none _)
      · rw [hget]
        exact fun h => by cases h
    · exact Or.inr ⟨Option.some_ne_none _, rfl⟩
    · exact Or.inr ⟨Option.some_ne_none _, rfl⟩
    · exact Or.inr ⟨Option.some_ne_none _, rfl⟩
    · rename_i hfind
      split
      · rename_i parent hparent
        left
        have hlast := lacksLast_of_find ht hfind hparent
        refine ⟨rfl, ?_, ?_, ?_, ?_⟩
        · rw [hlast.place]
          simp
        · rw [hlast.place, List.dropLast_concat]
          exact hlast.directory
        · rw [hlast.place, hlast.free]
          exact fun h => by cases h
        · rw [hlast.place]
          rfl
      · exact Or.inr ⟨Option.some_ne_none _, rfl⟩

/-- What writing a file does. If it succeeds, the file is at the place of the path and directories
may have been made before; if it stops, that is all that was done. -/
theorem write_cases {t : Tree} (ht : t.WellFormed) (p : Path) (text : String) :
    ((t.write p text).fault = none ∧
        ∃ u, t.Prepares u ∧ u.PutsFile p.place text (t.write p text).tree) ∨
      ((t.write p text).fault ≠ none ∧ t.Prepares (t.write p text).tree) := by
  have hmade := makeDirectory_prepares ht p.parent
  rw [write, Change.andThen]
  split
  · rcases writeLast_cases hmade.wellFormed p text with ⟨hnone, hput⟩ | ⟨hfault, htree⟩
    · exact Or.inl ⟨hnone, _, hmade, hput⟩
    · right
      rw [htree]
      exact ⟨hfault, hmade⟩
  · rename_i fault hfault
    right
    rw [hfault]
    exact ⟨Option.some_ne_none _, hmade⟩

end Tree

end SpecForge.Project
