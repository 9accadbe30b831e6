import SpecForge.Text.Case.Table

/-!
# Letter case

The full lower-case and upper-case forms of a text. A character may map to several, and a capital
sigma at the end of a word takes its final form.
-/

namespace SpecForge.Text

namespace Case

/-- The image of a character under a table of runs. -/
def Run.image? (r : Run) (c : Char) : Option Char :=
  let n := c.toNat
  if r.first ≤ n && n ≤ r.last && (n - r.first) % r.step == 0 then
    some (Char.ofNat (Int.toNat (n + r.delta)))
  else none

/-- The image of a character under the runs and the expansions of one mapping. -/
def image (runs : List Run) (expansions : List (Nat × List Nat)) (c : Char) : List Char :=
  match expansions.lookup c.toNat with
  | some cs => cs.map Char.ofNat
  | none => [(runs.findSome? (Run.image? · c)).getD c]

end Case

/-- The lower-case form of a character that stands alone. -/
def lowerChar (c : Char) : List Char :=
  if c.toNat < 128 then [c.toLower] else Case.image Case.lowerRuns Case.lowerExpansions c

/-- The upper-case form of a character. -/
def upperChar (c : Char) : List Char :=
  if c.toNat < 128 then [c.toUpper] else Case.image Case.upperRuns Case.upperExpansions c

/-- Is the first character that is not skipped a letter with case? -/
def meetsCased (cs : List Char) : Bool :=
  ((cs.find? fun c => !Case.ignorableRanges.covers c).map Case.casedRanges.covers).getD false

/-- Lower case of the rest of a text, given what stands before it in reverse. -/
def lowerFrom (before : List Char) : List Char → List Char
  | [] => []
  | c :: rest =>
    let image :=
      if c = 'Σ' then [if meetsCased before && !meetsCased rest then 'ς' else 'σ'] else lowerChar c
    image ++ lowerFrom (c :: before) rest

/-- The lower-case form of a text. -/
def lower (s : String) : String := String.ofList (lowerFrom [] s.toList)

/-- The upper-case form of a text. -/
def upper (s : String) : String := String.ofList (s.toList.flatMap upperChar)

end SpecForge.Text
