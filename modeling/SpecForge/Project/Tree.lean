import SpecForge.Failure
import SpecForge.Project.Path

/-!
# File trees

The directories and files that a command sees, as a value. A path is followed step by step: only a
directory can be gone through, and a step to the parent leads back from where the path has come. A
step that is too long is refused where it is met. The operations keep every other entry as it is.
-/

namespace SpecForge.Project

/-- What stands at a place. -/
inductive Entry where
  | directory
  | file (text : String)
deriving DecidableEq

/-- The entries by their places; the root is always a directory. -/
structure Tree where
  entries : List (List String × Entry)

/-- Where a path leads. -/
inductive Found where
  | entry (place : List String) (e : Entry)
  | missing
  | throughFile
  | tooLong

namespace Tree

/-- The tree of the root alone. -/
def empty : Tree := ⟨[]⟩

/-- The entry at a place. -/
def get? (t : Tree) (place : List String) : Option Entry :=
  match place with
  | [] => some .directory
  | place => t.entries.lookup place

/-- The entries with one of them put or replaced. -/
def putEntry (place : List String) (e : Entry) :
    List (List String × Entry) → List (List String × Entry)
  | [] => [(place, e)]
  | (p, old) :: rest => if p == place then (p, e) :: rest else (p, old) :: putEntry place e rest

/-- The tree with an entry at a place. -/
def put (t : Tree) (place : List String) (e : Entry) : Tree := ⟨putEntry place e t.entries⟩

theorem lookup_putEntry (place other : List String) (e : Entry)
    (entries : List (List String × Entry)) :
    (putEntry place e entries).lookup other =
      if other = place then some e else entries.lookup other := by
  induction entries with
  | nil =>
    simp only [putEntry, List.lookup_cons, List.lookup_nil]
    by_cases h : other = place
    · simp [h]
    · simp [h, beq_eq_false_iff_ne.2 h]
  | cons entry rest ih =>
    obtain ⟨p, old⟩ := entry
    simp only [putEntry]
    by_cases hp : p = place
    · subst hp
      simp only [beq_self_eq_true, if_true, List.lookup_cons]
      by_cases h : other = p
      · simp [h]
      · simp [h, beq_eq_false_iff_ne.2 h]
    · simp only [beq_eq_false_iff_ne.2 hp, Bool.false_eq_true, if_false, List.lookup_cons, ih]
      by_cases h : other = p
      · simp [h, hp]
      · simp [beq_eq_false_iff_ne.2 h]

/-- After a put the entry is there, and all others are as before. -/
theorem get?_put (t : Tree) {place : List String} (hne : place ≠ []) (other : List String)
    (e : Entry) : (t.put place e).get? other = if other = place then some e else t.get? other := by
  cases other with
  | nil => simp [get?, Ne.symm hne]
  | cons step rest => simp only [get?, put, lookup_putEntry]

/-- Follows steps from a directory. -/
def follow (t : Tree) (here : List String) : List String → Found
  | [] => .entry here .directory
  | step :: rest =>
    if step == Path.up then follow t here.dropLast rest
    else if Path.longestStep < step.utf8ByteSize then .tooLong
    else match t.get? (here ++ [step]) with
      | none => .missing
      | some .directory => follow t (here ++ [step]) rest
      | some (.file text) =>
        if rest.isEmpty then .entry (here ++ [step]) (.file text) else .throughFile

/-- Where a path leads. -/
def find (t : Tree) (p : Path) : Found := if p.isTooLong then .tooLong else t.follow [] p.steps

/-- Does the path lead to a directory? -/
def isDirectory (t : Tree) (p : Path) : Bool :=
  match t.find p with
  | .entry _ .directory => true
  | _ => false

/-- The place and the entry that a path leads to, if there is one. A path with a null character
leads nowhere. -/
def look (t : Tree) (p : Path) : Outcome (Option (List String × Entry)) :=
  if p.hasNull then .ok none
  else match t.find p with
    | .entry place e => .ok (some (place, e))
    | .tooLong => .error (.longName p.text)
    | _ => .ok none

/-- Does the path lead to anything? -/
def contains (t : Tree) (p : Path) : Outcome Bool := do return (← t.look p).isSome

/-- The names in the directory at a place. -/
def names (t : Tree) (place : List String) : List String :=
  t.entries.filterMap fun e =>
    if e.1.dropLast == place then e.1.getLast? else none

/-- Does the path lead to a directory without entries? -/
def isEmptyDirectory (t : Tree) (p : Path) : Outcome Bool := do
  match ← t.look p with
  | some (place, .directory) => return (t.names place).isEmpty
  | _ => return false

/-- What comes of an attempt to make one directory. -/
inductive Making where
  | made (t : Tree)
  | present
  | noParent
  | throughFile
  | tooLong

/-- Makes one directory. -/
def makeOne (t : Tree) (p : Path) : Making :=
  match p.steps.getLast? with
  | none => .present
  | some name =>
    match t.find p.parent with
    | .missing => .noParent
    | .throughFile => .throughFile
    | .tooLong => .tooLong
    | .entry _ (.file _) => .throughFile
    | .entry place .directory =>
      if name == Path.up || (t.get? (place ++ [name])).isSome then .present
      else if Path.longestStep < name.utf8ByteSize then .tooLong
      else .made (t.put (place ++ [name]) .directory)

/-- What comes of a change: the tree, and why the change stopped, if it did. What was done before it
stopped stays. -/
structure Change where
  tree : Tree
  fault : Option Failure

/-- A change that was made. -/
def done (t : Tree) : Change := ⟨t, none⟩

/-- A change that stopped. -/
def stopped (t : Tree) (f : Failure) : Change := ⟨t, some f⟩

/-- One change, and another one unless the first stopped. -/
def Change.andThen (c : Change) (next : Tree → Change) : Change :=
  match c.fault with
  | none => next c.tree
  | some _ => c

/-- Makes a directory whose parent is there; one that is there already is kept. -/
def makeLast (t : Tree) (p : Path) : Change :=
  match t.makeOne p with
  | .made t => t.done
  | .present => if t.isDirectory p then t.done else t.stopped (.occupied p.text)
  | .noParent => t.stopped (.throughFile p.text)
  | .throughFile => t.stopped (.throughFile p.text)
  | .tooLong => t.stopped (.longName p.text)

/-- Makes the directory whose steps are given in reverse, and those on the way to it. The paths are
written as the given one is. -/
def makeFrom (t : Tree) (written : Path) : List String → Change
  | [] => t.done
  | step :: before =>
    let p : Path := { written with steps := (step :: before).reverse }
    match t.makeOne p with
    | .noParent => (t.makeFrom written before).andThen fun t => t.makeLast p
    | _ => t.makeLast p

/-- Makes a directory and those on the way to it. -/
def makeDirectory (t : Tree) (p : Path) : Change :=
  if p.hasNull then t.stopped (.nullInPath p.text) else t.makeFrom p p.steps.reverse

/-- Writes a file into a directory that is there. -/
def writeLast (t : Tree) (p : Path) (text : String) : Change :=
  if p.hasNull then t.stopped (.nullInPath p.text)
  else match t.find p with
  | .entry place (.file _) => (t.put place (.file text)).done
  | .entry _ .directory => t.stopped (.directory p.text)
  | .throughFile => t.stopped (.throughFile p.text)
  | .tooLong => t.stopped (.longName p.text)
  | .missing => match t.find p.parent with
    | .entry place .directory => (t.put (place ++ [p.name]) (.file text)).done
    | _ => t.stopped (.throughFile p.text)

/-- Writes a file; the directories on the way to it are made first. -/
def write (t : Tree) (p : Path) (text : String) : Change :=
  (t.makeDirectory p.parent).andThen fun t => t.writeLast p text

/-- The text of the file that a path leads to, nothing where the path leads nowhere. -/
def read (t : Tree) (p : Path) : Outcome (Option String) := do
  match ← t.look p with
  | some (_, .file text) => return some text
  | some (_, .directory) => throw (.directory p.text)
  | none => return none

end Tree

end SpecForge.Project
