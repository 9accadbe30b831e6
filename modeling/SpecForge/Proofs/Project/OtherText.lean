import SpecForge.Proofs.Project.Writes

/-!
# Trees in which one file has another text

Where paths lead, which directories are made and where files are written depends on no text. So
whatever is done to a tree in which one file has another text is what is done to the tree itself,
and the file still has the other text behind it, unless it was written over.
-/

namespace SpecForge.Project

/-- Where a path leads if the file at a place has another text. -/
def Found.withText (place : List String) (text : String) : Found → Found
  | .entry here (.file old) => .entry here (.file (if here = place then text else old))
  | found => found

namespace Tree

/-- What comes of an attempt to make a directory if the file at a place has another text. -/
def Making.withText (place : List String) (text : String) : Making → Making
  | .made t => .made (t.put place (.file text))
  | making => making

/-- What comes of a change if the file at a place has another text. -/
def Change.withText (place : List String) (text : String) (c : Change) : Change :=
  ⟨c.tree.put place (.file text), c.fault⟩

/-- The same stands in both trees at all places but one. -/
def SameBut (place : List String) (t u : Tree) : Prop :=
  ∀ other, other ≠ place → u.get? other = t.get? other

/-! ## Entries that are put in any order -/

theorem putEntry_comm {place other : List String} (hne : other ≠ place) (e e' : Entry)
    {entries : List (List String × Entry)} (h : entries.lookup place ≠ none) :
    putEntry other e' (putEntry place e entries) =
      putEntry place e (putEntry other e' entries) := by
  induction entries with
  | nil => exact absurd rfl h
  | cons entry rest ih =>
      obtain ⟨p, old⟩ := entry
      by_cases hp : p = place
      · subst hp
        have hother : (p == other) = false := beq_eq_false_iff_ne.2 hne.symm
        simp only [putEntry, beq_self_eq_true, if_true, hother, Bool.false_eq_true, if_false]
      · have hplace : (p == place) = false := beq_eq_false_iff_ne.2 hp
        rw [List.lookup_cons, beq_eq_false_iff_ne.2 (Ne.symm hp)] at h
        by_cases ho : p = other
        · subst ho
          simp only [putEntry, hplace, beq_self_eq_true, if_true, Bool.false_eq_true, if_false]
        · have hother : (p == other) = false := beq_eq_false_iff_ne.2 ho
          simp only [putEntry, hplace, hother, Bool.false_eq_true, if_false, ih h]

theorem map_fst_putEntry {place : List String} (e : Entry) {entries : List (List String × Entry)}
    (h : entries.lookup place ≠ none) :
    (putEntry place e entries).map Prod.fst = entries.map Prod.fst := by
  induction entries with
  | nil => exact absurd rfl h
  | cons entry rest ih =>
      obtain ⟨p, old⟩ := entry
      rw [putEntry]
      by_cases hp : p = place
      · rw [if_pos (beq_iff_eq.2 hp)]
        rfl
      · rw [if_neg (by simpa using hp), List.map_cons, List.map_cons]
        rw [List.lookup_cons, beq_eq_false_iff_ne.2 (Ne.symm hp)] at h
        rw [ih h]

section

variable {t : Tree} {place : List String} {old : String} (text : String)
  (hfile : t.get? place = some (.file old))

include hfile

theorem ne_nil_of_file : place ≠ [] := by
  rintro rfl
  cases hfile

theorem lookup_of_file : t.entries.lookup place ≠ none := by
  rw [← get?_eq_lookup t (ne_nil_of_file hfile), hfile]
  exact Option.some_ne_none _

theorem get?_withText (other : List String) :
    (t.put place (.file text)).get? other =
      if other = place then some (.file text) else t.get? other :=
  get?_put t (ne_nil_of_file hfile) other _

theorem sameBut_withText : Tree.SameBut place t (t.put place (.file text)) := by
  intro other hother
  rw [get?_withText text hfile, if_neg hother]

theorem put_withText {other : List String} (hne : other ≠ place) (e : Entry) :
    (t.put place (.file text)).put other e = (t.put other e).put place (.file text) := by
  rw [put, put, put, put, putEntry_comm hne _ _ (lookup_of_file hfile)]

theorem names_withText (here : List String) :
    (t.put place (.file text)).names here = t.names here := by
  have hnames : ∀ entries : List (List String × Entry),
      (entries.filterMap fun e => if e.1.dropLast == here then e.1.getLast? else none) =
        (entries.map Prod.fst).filterMap fun p =>
          if p.dropLast == here then p.getLast? else none := by
    intro entries
    rw [List.filterMap_map]
    rfl
  rw [names, names, hnames, hnames, put, map_fst_putEntry _ (lookup_of_file hfile)]

theorem wellFormed_withText (ht : t.WellFormed) : (t.put place (.file text)).WellFormed := by
  have hne : t.get? place ≠ none := by
    rw [hfile]
    exact Option.some_ne_none _
  refine ht.put (ne_nil_of_file hfile) (ht place hne) ?_
  rw [hfile]
  exact fun h => by cases h

/-! ## Following paths -/

theorem follow_withText (here steps : List String) :
    (t.put place (.file text)).follow here steps = (t.follow here steps).withText place text := by
  induction steps generalizing here with
  | nil => rfl
  | cons step steps ih =>
      by_cases hup : step = Path.up
      · rw [hup, follow_up, follow_up, ih]
      · have hstep : ¬ (step == Path.up) = true := by
          simpa using hup
        rw [follow, follow, if_neg hstep, if_neg hstep]
        split
        · rfl
        · rw [get?_withText text hfile]
          by_cases heq : here ++ [step] = place
          · rw [if_pos heq, heq, hfile]
            dsimp only
            split
            · rw [Found.withText, if_pos rfl]
            · rfl
          · rw [if_neg heq]
            split
            · rfl
            · exact ih _
            · split
              · rw [Found.withText, if_neg heq]
              · rfl

theorem find_withText (p : Path) :
    (t.put place (.file text)).find p = (t.find p).withText place text := by
  rw [find, find]
  split
  · rfl
  · exact follow_withText text hfile [] p.steps

theorem isDirectory_withText (p : Path) :
    (t.put place (.file text)).isDirectory p = t.isDirectory p := by
  rw [isDirectory, isDirectory, find_withText text hfile]
  cases t.find p with
  | entry here e => cases e <;> rfl
  | _ => rfl

/-- What a path leads to is the same, but for the text of the file. -/
theorem look_withText (p : Path) :
    (t.put place (.file text)).look p = (t.look p).map (Option.map fun found =>
      match found with
      | (here, .file old) => (here, .file (if here = place then text else old))
      | found => found) := by
  rw [look, look]
  split
  · rfl
  · rw [find_withText text hfile]
    cases t.find p with
    | entry here e => cases e <;> rfl
    | _ => rfl

theorem contains_withText (p : Path) :
    (t.put place (.file text)).contains p = t.contains p := by
  rw [contains, contains, look_withText text hfile]
  cases t.look p with
  | error f => rfl
  | ok found => cases found <;> rfl

/-! ## Making directories -/

theorem makeOne_withText (p : Path) :
    (t.put place (.file text)).makeOne p = (t.makeOne p).withText place text := by
  rw [makeOne, makeOne]
  split
  · rfl
  · rename_i name _
    rw [find_withText text hfile]
    cases t.find p.parent with
    | missing => rfl
    | throughFile => rfl
    | tooLong => rfl
    | entry here e =>
        cases e with
        | file _ => rfl
        | directory =>
            have hthere : ((t.put place (.file text)).get? (here ++ [name])).isSome =
                (t.get? (here ++ [name])).isSome := by
              rw [get?_withText text hfile]
              split
              · rename_i heq
                rw [heq, hfile]
                rfl
              · rfl
            simp only [Found.withText, hthere]
            split
            · rfl
            · rename_i hfree
              split
              · rfl
              · rw [Bool.or_eq_true, not_or, Option.not_isSome_iff_eq_none] at hfree
                have hne : here ++ [name] ≠ place := by
                  intro heq
                  rw [heq, hfile] at hfree
                  cases hfree.2
                rw [Making.withText, put_withText text hfile hne]

theorem makeLast_withText (p : Path) :
    (t.put place (.file text)).makeLast p = (t.makeLast p).withText place text := by
  rw [makeLast, makeLast, makeOne_withText text hfile, isDirectory_withText text hfile]
  cases t.makeOne p with
  | present =>
      dsimp only [Making.withText]
      split
      · rfl
      · rfl
  | _ => rfl

theorem makeFrom_withText (ht : t.WellFormed) (written : Path) (steps : List String) :
    (t.put place (.file text)).makeFrom written steps =
      (t.makeFrom written steps).withText place text := by
  induction steps with
  | nil => rfl
  | cons step before ih =>
      rw [makeFrom, makeFrom, makeOne_withText text hfile, makeLast_withText text hfile, ih]
      have hmade := makeFrom_prepares ht written before
      have hlast := makeLast_withText text ((hmade.adds place).eq_some hfile)
        { written with steps := (step :: before).reverse }
      cases t.makeOne { written with steps := (step :: before).reverse } with
      | noParent =>
          dsimp only [Making.withText]
          rw [Change.andThen, Change.andThen, Change.withText]
          dsimp only
          split
          · exact hlast
          · rfl
      | _ => rfl

theorem makeDirectory_withText (ht : t.WellFormed) (p : Path) :
    (t.put place (.file text)).makeDirectory p = (t.makeDirectory p).withText place text := by
  rw [makeDirectory, makeDirectory]
  split
  · rfl
  · exact makeFrom_withText text hfile ht p _

/-! ## Writing a file -/

theorem writeLast_withText (ht : t.WellFormed) {p : Path} (hne : p.place ≠ place)
    (written : String) : (t.put place (.file text)).writeLast p written =
      (t.writeLast p written).withText place text := by
  rw [writeLast, writeLast]
  split
  · rfl
  · rw [find_withText text hfile, find_withText text hfile]
    cases hfind : t.find p with
    | throughFile => rfl
    | tooLong => rfl
    | missing =>
        cases hparent : t.find p.parent with
        | missing => rfl
        | throughFile => rfl
        | tooLong => rfl
        | entry here e =>
            cases e with
            | file _ => rfl
            | directory =>
                have hplace := (lacksLast_of_find ht hfind hparent).place
                rw [hplace] at hne
                dsimp only [Found.withText]
                rw [put_withText text hfile hne]
                rfl
    | entry here e =>
        cases e with
        | directory => rfl
        | file _ =>
            have hplace := (find_eq_entry ht hfind).1
            rw [← hplace] at hne
            dsimp only [Found.withText]
            rw [put_withText text hfile hne]
            rfl

/-- Another file is written as if the text were the old one. -/
theorem write_withText (ht : t.WellFormed) {p : Path} (hne : p.place ≠ place) (written : String) :
    (t.put place (.file text)).write p written = (t.write p written).withText place text := by
  rw [write, write, makeDirectory_withText text hfile ht, Change.andThen, Change.andThen,
    Change.withText]
  have hmade := makeDirectory_prepares ht p.parent
  dsimp only
  split
  · exact writeLast_withText text ((hmade.adds place).eq_some hfile) hmade.wellFormed hne written
  · rfl

end

end Tree

end SpecForge.Project
