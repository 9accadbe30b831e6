import SpecForge.Failure
import SpecForge.Text.Split

/-!
# Paths

A path is a list of steps from the root. Paths are joined and resolved by their text alone; a step
to the parent is kept until the path is resolved. Two slashes at the beginning lead to the root as
one does, but they are kept; more than two are one.
-/

namespace SpecForge.Project

/-- A path from the root, and whether its text begins with two slashes. -/
structure Path where
  steps : List String
  isDoubled : Bool
deriving DecidableEq

namespace Path

/-- The path of some steps, with one slash in front. -/
def ofSteps (steps : List String) : Path := ⟨steps, false⟩

/-- The root. -/
def root : Path := ofSteps []

/-- The step to the parent. -/
def up : String := ".."

/-- The steps that a text writes; empty ones and those that stay where they are do not count. -/
def stepsOf (s : String) : List String :=
  (Text.split '/' s).filter fun step => step != "" && step != "."

/-- The path that a text writes, seen from another path; a slash at its beginning leads to the
root. -/
def join (p : Path) (s : String) : Path :=
  if Text.startsWith s "/" then
    ⟨stepsOf s, Text.startsWith s "//" && !Text.startsWith s "///"⟩
  else { p with steps := p.steps ++ stepsOf s }

/-- The path after several joins. -/
def joinAll (p : Path) (parts : List String) : Path := parts.foldl join p

/-- The text of a path. -/
def text (p : Path) : String :=
  (if p.isDoubled then "//" else "/") ++ "/".intercalate p.steps

/-- The last step. -/
def name (p : Path) : String := p.steps.getLastD ""

/-- The path without its last step. -/
def parent (p : Path) : Path := { p with steps := p.steps.dropLast }

/-- The greatest number of bytes of a step. -/
def longestStep : Nat := 255

/-- The greatest number of bytes of a path. -/
def longestText : Nat := 4095

/-- Does the system refuse the path for its length? -/
def isTooLong (p : Path) : Bool := longestText < p.text.utf8ByteSize

/-- Does the path hold the character that ends a text for the system? -/
def hasNull (p : Path) : Bool := p.text.toList.contains '\x00'

/-- The steps without those to the parent, the ones taken so far being given in reverse. -/
def settle (taken : List String) : List String → List String
  | [] => taken.reverse
  | step :: rest => if step == up then settle taken.tail rest else settle (step :: taken) rest

/-- The path without steps to the parent, one slash in front. -/
def resolve (p : Path) : Path := ofSteps (settle [] p.steps)

/-- The path without steps to the parent, if the system can follow it. -/
def resolved (p : Path) : Outcome Path :=
  if p.hasNull then .error (.nullInPath p.text) else .ok p.resolve

theorem up_not_mem_settle (taken steps : List String) (h : up ∉ taken) :
    up ∉ settle taken steps := by
  induction steps generalizing taken with
  | nil => simpa [settle] using h
  | cons step rest ih =>
    simp only [settle]
    split
    · exact ih _ fun hm => h (List.mem_of_mem_tail hm)
    · rename_i hs
      refine ih _ ?_
      simp only [List.mem_cons, not_or]
      exact ⟨fun he => hs (by simp [he]), h⟩

/-- A resolved path has no step to the parent. -/
theorem up_not_mem_resolve (p : Path) : up ∉ p.resolve.steps :=
  up_not_mem_settle [] p.steps (by simp)

end Path

end SpecForge.Project
