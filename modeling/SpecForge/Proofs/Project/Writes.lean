import Mathlib.Data.Set.Card
import SpecForge.Proofs.Project.Tree

/-!
# Trees behind several writes

After several writes a place holds the text that was written there last. At every other place a tree
is as before, but for directories where nothing was. So which files are kept and how many are new
can be read from the list of the writes.
-/

namespace SpecForge.Project

/-- A file that was written: its place and its text. -/
structure Write where
  place : List String
  text : String
deriving DecidableEq

/-- The text that is written last at a place. -/
def lastText (place : List String) : List Write → Option String
  | [] => none
  | w :: rest =>
    (lastText place rest).orElse fun _ => if w.place = place then some w.text else none

theorem lastText_append (place : List String) (ws rest : List Write) :
    lastText place (ws ++ rest) = (lastText place rest).orElse fun _ => lastText place ws := by
  induction ws with
  | nil => cases h : lastText place rest <;> simp [lastText, h]
  | cons w ws ih =>
      rw [List.cons_append, lastText, ih, lastText]
      cases lastText place rest <;> rfl

theorem lastText_eq_none_iff {place : List String} {ws : List Write} :
    lastText place ws = none ↔ place ∉ ws.map (·.place) := by
  induction ws with
  | nil => simp [lastText]
  | cons w ws ih =>
      rw [lastText, List.map_cons, List.mem_cons, not_or, ← ih]
      cases lastText place ws with
      | none => simp [eq_comm]
      | some text => simp

theorem lastText_eq_some {place : List String} {ws : List Write} {text : String}
    (h : place ∈ ws.map (·.place)) (hall : ∀ w ∈ ws, w.place = place → w.text = text) :
    lastText place ws = some text := by
  induction ws with
  | nil => exact absurd h List.not_mem_nil
  | cons w ws ih =>
      rw [List.forall_mem_cons] at hall
      rw [lastText]
      by_cases hrest : place ∈ ws.map (·.place)
      · rw [ih hrest hall.2]
        rfl
      · have hplace : w.place = place := by
          rw [List.map_cons, List.mem_cons] at h
          exact (h.resolve_right hrest).symm
        rw [lastText_eq_none_iff.2 hrest, if_pos hplace, hall.1 hplace]
        rfl

namespace Tree

/-- The second tree comes from the first one by the writes, in their order, and by making
directories. -/
structure Becomes (t : Tree) (ws : List Write) (u : Tree) : Prop where
  wellFormed : u.WellFormed
  written : ∀ place text, lastText place ws = some text → u.get? place = some (.file text)
  kept : ∀ place, lastText place ws = none → Kept (t.get? place) (u.get? place)
  free : ∀ w ∈ ws, t.get? w.place ≠ some .directory

theorem Prepares.becomes {t u : Tree} (h : t.Prepares u) : t.Becomes [] u := by
  constructor
  · exact h.wellFormed
  · intro place text htext
    cases htext
  · exact fun place _ => h.adds place
  · exact fun w hw => absurd hw List.not_mem_nil

theorem Becomes.refl {t : Tree} (ht : t.WellFormed) : t.Becomes [] t := (Prepares.refl ht).becomes

theorem PutsFile.becomes {t u : Tree} (ht : t.WellFormed) {place : List String} {text : String}
    (h : t.PutsFile place text u) : t.Becomes [⟨place, text⟩] u := by
  constructor
  · exact h.wellFormed ht
  · intro other new hnew
    have heq : place = other ∧ text = new := by
      simpa [lastText] using hnew
    rw [h.get?, if_pos heq.1.symm, heq.2]
  · intro other hother
    have hne : place ≠ other := by
      simpa [lastText] using hother
    rw [h.get?, if_neg hne.symm]
    exact Or.inl rfl
  · intro w hw
    rw [List.mem_singleton.1 hw]
    exact h.free

/-- A directory stays one. -/
theorem Becomes.directory {t u : Tree} {ws : List Write} (h : t.Becomes ws u) {place : List String}
    (hp : t.get? place = some .directory) : u.get? place = some .directory := by
  have hnone : lastText place ws = none := by
    rw [lastText_eq_none_iff]
    intro hmem
    obtain ⟨w, hw, rfl⟩ := List.mem_map.1 hmem
    exact h.free w hw hp
  exact (h.kept place hnone).eq_some hp

/-- What was there stays there, with the same text or another one. -/
theorem Becomes.get?_ne_none {t u : Tree} {ws : List Write} (h : t.Becomes ws u)
    {place : List String} (hp : t.get? place ≠ none) : u.get? place ≠ none := by
  cases hl : lastText place ws with
  | none =>
      obtain ⟨e, he⟩ := Option.ne_none_iff_exists'.1 hp
      rw [(h.kept place hl).eq_some he]
      exact Option.some_ne_none e
  | some text =>
      rw [h.written place text hl]
      exact Option.some_ne_none _

/-- A file stays one. -/
theorem Becomes.file {t u : Tree} {ws : List Write} (h : t.Becomes ws u) {place : List String}
    {old : String} (hp : t.get? place = some (.file old)) :
    ∃ text, u.get? place = some (.file text) := by
  cases hl : lastText place ws with
  | none => exact ⟨old, (h.kept place hl).eq_some hp⟩
  | some text => exact ⟨text, h.written place text hl⟩

theorem Becomes.trans {t u v : Tree} {ws rest : List Write} (h : t.Becomes ws u)
    (h' : u.Becomes rest v) : t.Becomes (ws ++ rest) v := by
  constructor
  · exact h'.wellFormed
  · intro place text htext
    rw [lastText_append] at htext
    cases hl : lastText place rest with
    | some new =>
        rw [hl] at htext
        cases htext
        exact h'.written place text hl
    | none =>
        rw [hl] at htext
        exact (h'.kept place hl).eq_some (h.written place text htext)
  · intro place hnone
    rw [lastText_append] at hnone
    cases hl : lastText place rest with
    | some new =>
        rw [hl] at hnone
        cases hnone
    | none =>
        rw [hl] at hnone
        exact (h.kept place hnone).trans (h'.kept place hl)
  · intro w hw hdir
    rcases List.mem_append.1 hw with hw | hw
    · exact h.free w hw hdir
    · exact h'.free w hw (h.directory hdir)

/-! ## Where paths lead behind the writes -/

theorem Becomes.follow_directory {t u : Tree} {ws : List Write} (h : t.Becomes ws u)
    {here steps place : List String} (hf : t.follow here steps = .entry place .directory) :
    u.follow here steps = .entry place .directory := by
  induction steps generalizing here with
  | nil =>
      cases hf
      rfl
  | cons step steps ih =>
      by_cases hs : step = Path.up
      · rw [hs, follow_up] at hf ⊢
        exact ih hf
      · obtain ⟨hl, ⟨hget, hrest⟩ | ⟨_, _, _, _, he⟩⟩ := follow_cons_cases hs hf
        · rw [Tree.follow_directory hs hl (h.directory hget)]
          exact ih hrest
        · cases he

/-- A path that led to a file leads to the same place, where another text may be. -/
theorem Becomes.follow_file {t u : Tree} {ws : List Write} (h : t.Becomes ws u)
    {here steps place : List String} {old text : String}
    (hf : t.follow here steps = .entry place (.file old)) (hu : u.get? place = some (.file text)) :
    u.follow here steps = .entry place (.file text) := by
  induction steps generalizing here with
  | nil => cases hf
  | cons step steps ih =>
      by_cases hs : step = Path.up
      · rw [hs, follow_up] at hf ⊢
        exact ih hf
      · obtain ⟨hl, ⟨hget, hrest⟩ | ⟨_, _, rfl, rfl, _⟩⟩ := follow_cons_cases hs hf
        · rw [Tree.follow_directory hs hl (h.directory hget)]
          exact ih hrest
        · exact follow_singleton_file hs hl hu

theorem Becomes.find_file {t u : Tree} {ws : List Write} (h : t.Becomes ws u) {p : Path}
    {place : List String} {old text : String} (hf : t.find p = .entry place (.file old))
    (hu : u.get? place = some (.file text)) : u.find p = .entry place (.file text) := by
  rw [find] at hf ⊢
  split at hf
  · cases hf
  · rename_i hlong
    rw [if_neg hlong]
    exact h.follow_file hf hu

theorem Becomes.look_file {t u : Tree} {ws : List Write} (h : t.Becomes ws u) {p : Path}
    {place : List String} {old text : String} (hl : t.look p = .ok (some (place, .file old)))
    (hu : u.get? place = some (.file text)) : u.look p = .ok (some (place, .file text)) := by
  rw [look_eq_some_iff] at hl ⊢
  exact ⟨hl.1, h.find_file hl.2 hu⟩

theorem LacksLast.find_file {t u : Tree} {ws : List Write} {p : Path} {here : List String}
    {text : String} (hlast : t.LacksLast p here) (h : t.Becomes ws u)
    (hm : t.find p = .missing) (hp : t.find p.parent = .entry here .directory)
    (hu : u.get? p.place = some (.file text)) : u.find p = .entry p.place (.file text) := by
  rw [hlast.place] at hu ⊢
  rw [find] at hm hp ⊢
  split at hm
  · cases hm
  · rename_i hlong
    split at hp
    · cases hp
    · rw [if_neg hlong, hlast.steps, follow_append (h.follow_directory hp)]
      exact follow_singleton_file hlast.name_ne_up hlast.isShort hu

theorem look_writeLast {t : Tree} (ht : t.WellFormed) {p : Path} {text : String}
    (h : (t.writeLast p text).fault = none) :
    (t.writeLast p text).tree.look p = .ok (some (p.place, .file text)) := by
  obtain ⟨_, hput⟩ | ⟨hfault, _⟩ := writeLast_cases ht p text
  · have hbecomes := hput.becomes ht
    have hget : (t.writeLast p text).tree.get? p.place = some (.file text) := by
      rw [hput.get?, if_pos rfl]
    rw [look_eq_some_iff]
    rw [writeLast] at h
    split at h
    · cases h
    · rename_i hnull
      rw [Bool.not_eq_true] at hnull
      refine ⟨hnull, ?_⟩
      split at h
      · rename_i place old hfind
        obtain ⟨rfl, _⟩ := find_eq_entry ht hfind
        exact hbecomes.find_file hfind hget
      · cases h
      · cases h
      · cases h
      · rename_i hfind
        split at h
        · rename_i here hparent
          exact (lacksLast_of_find ht hfind hparent).find_file hbecomes hfind hparent hget
        · cases h
  · exact absurd h hfault

theorem write_becomes {t : Tree} (ht : t.WellFormed) {p : Path} {text : String}
    (h : (t.write p text).fault = none) :
    t.Becomes [⟨p.place, text⟩] (t.write p text).tree := by
  rcases write_cases ht p text with ⟨_, u, hprep, hput⟩ | ⟨hfault, _⟩
  · exact hprep.becomes.trans (hput.becomes hprep.wellFormed)
  · exact absurd h hfault

theorem write_prepares {t : Tree} (ht : t.WellFormed) {p : Path} {text : String} {f : Failure}
    (h : (t.write p text).fault = some f) : t.Prepares (t.write p text).tree := by
  rcases write_cases ht p text with ⟨hnone, _⟩ | ⟨_, hprep⟩
  · rw [hnone] at h
    cases h
  · exact hprep

/-- A file that was written is where its path leads. -/
theorem look_write {t : Tree} (ht : t.WellFormed) {p : Path} {text : String}
    (h : (t.write p text).fault = none) :
    (t.write p text).tree.look p = .ok (some (p.place, .file text)) := by
  have hmade := makeDirectory_prepares ht p.parent
  rw [write, Change.andThen] at h ⊢
  split at h
  · exact look_writeLast hmade.wellFormed h
  · rename_i hfault
    rw [hfault] at h
    cases h

/-! ## Files that are kept and files that are new -/

/-- Every file is still there with the same text. -/
def KeepsFiles (t u : Tree) : Prop :=
  ∀ place text, t.get? place = some (.file text) → u.get? place = some (.file text)

/-- The places where files are that were free before. -/
def newFiles (t u : Tree) : Set (List String) :=
  {place | t.get? place = none ∧ ∃ text, u.get? place = some (.file text)}

/-- What is written over a file at last is the text that it has. -/
def Restores (t : Tree) (ws : List Write) : Prop :=
  ∀ place text, t.get? place = some (.file text) →
    ∀ new, lastText place ws = some new → new = text

theorem Becomes.keepsFiles_iff {t u : Tree} {ws : List Write} (h : t.Becomes ws u) :
    t.KeepsFiles u ↔ t.Restores ws := by
  constructor
  · intro hkept place text hfile new hnew
    have hu := hkept place text hfile
    rw [h.written place new hnew] at hu
    cases hu
    rfl
  · intro hsame place text hfile
    cases hl : lastText place ws with
    | none => exact (h.kept place hl).eq_some hfile
    | some new => rw [h.written place new hl, hsame place text hfile new hl]

theorem Becomes.mem_newFiles_iff {t u : Tree} {ws : List Write} (h : t.Becomes ws u)
    {place : List String} :
    place ∈ t.newFiles u ↔ t.get? place = none ∧ place ∈ ws.map (·.place) := by
  have hmem : place ∈ ws.map (·.place) ↔ lastText place ws ≠ none := by
    rw [ne_eq, lastText_eq_none_iff, not_not]
  rw [hmem]
  constructor
  · rintro ⟨hfree, text, hfile⟩
    refine ⟨hfree, ?_⟩
    intro hl
    rcases h.kept place hl with hu | ⟨_, hu⟩
    · rw [hu, hfree] at hfile
      cases hfile
    · rw [hu] at hfile
      cases hfile
  · rintro ⟨hfree, hl⟩
    obtain ⟨text, htext⟩ := Option.ne_none_iff_exists'.1 hl
    exact ⟨hfree, text, h.written place text htext⟩

/-- Writes to different places where nothing was. -/
structure Fresh (t : Tree) (ws : List Write) : Prop where
  nodup : (ws.map (·.place)).Nodup
  free : ∀ w ∈ ws, t.get? w.place = none

theorem fresh_nil (t : Tree) : t.Fresh [] :=
  ⟨List.nodup_nil, fun _ hw => absurd hw List.not_mem_nil⟩

theorem Becomes.newFiles_eq {t u : Tree} {ws : List Write} (h : t.Becomes ws u) :
    t.newFiles u = (((ws.map (·.place)).toFinset.filter fun place => t.get? place = none :
      Finset (List String)) : Set (List String)) := by
  ext place
  rw [h.mem_newFiles_iff]
  simp [and_comm]

/-- There are as many new files as writes if and only if each write made its own new file. -/
theorem Becomes.ncard_newFiles_eq_iff {t u : Tree} {ws : List Write} (h : t.Becomes ws u) :
    (t.newFiles u).ncard = ws.length ↔ t.Fresh ws := by
  have hlength : (ws.map (·.place)).length = ws.length := List.length_map _
  have hle : (ws.map (·.place)).toFinset.card ≤ ws.length := by
    rw [← hlength]
    exact List.toFinset_card_le _
  have hsub := Finset.card_filter_le (ws.map (·.place)).toFinset fun place => t.get? place = none
  rw [h.newFiles_eq, Set.ncard_coe_finset]
  constructor
  · intro hcard
    have hall : (ws.map (·.place)).toFinset.card = (ws.map (·.place)).length := by
      omega
    constructor
    · exact Multiset.toFinset_card_eq_card_iff_nodup.1 hall
    · intro w hw
      have hfilter := Finset.card_filter_eq_iff.1 (le_antisymm hsub (by rw [hcard]; exact hle))
      exact hfilter w.place (List.mem_toFinset.2 (List.mem_map_of_mem hw))
  · intro hfresh
    have hfilter : ∀ place ∈ (ws.map (·.place)).toFinset, t.get? place = none := by
      intro place hplace
      obtain ⟨w, hw, rfl⟩ := List.mem_map.1 (List.mem_toFinset.1 hplace)
      exact hfresh.free w hw
    rw [Finset.card_filter_eq_iff.2 hfilter, List.toFinset_card_of_nodup hfresh.nodup, hlength]

theorem Fresh.restores {t : Tree} {ws : List Write} (h : t.Fresh ws) : t.Restores ws := by
  intro place text hfile new hnew
  have hnone : lastText place ws = none := by
    rw [lastText_eq_none_iff]
    intro hmem
    obtain ⟨w, hw, rfl⟩ := List.mem_map.1 hmem
    rw [h.free w hw] at hfile
    cases hfile
  rw [hnone] at hnew
  cases hnew

/-- Writes that are fresh one after the other are fresh together. -/
theorem Fresh.append {t u : Tree} {ws rest : List Write} (h : t.Fresh ws) (hu : t.Becomes ws u)
    (h' : u.Fresh rest) : t.Fresh (ws ++ rest) := by
  constructor
  · rw [List.map_append, List.nodup_append]
    refine ⟨h.nodup, h'.nodup, ?_⟩
    rintro place hplace _ hother rfl
    obtain ⟨w, hw, rfl⟩ := List.mem_map.1 hother
    have hfree := h'.free w hw
    have hlast : lastText w.place ws ≠ none := by
      rw [ne_eq, lastText_eq_none_iff, not_not]
      exact hplace
    obtain ⟨text, htext⟩ := Option.ne_none_iff_exists'.1 hlast
    rw [hu.written _ _ htext] at hfree
    cases hfree
  · intro w hw
    rcases List.mem_append.1 hw with hw | hw
    · exact h.free w hw
    · by_contra hne
      exact hu.get?_ne_none hne (h'.free w hw)

end Tree

end SpecForge.Project
