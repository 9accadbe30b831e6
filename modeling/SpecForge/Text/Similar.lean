/-!
# Similar texts

How much two texts have in common: their longest common part, and what is common before and behind
it. A name that was misspelled is recognized among the names that there are by how much of the two
that is.
-/

namespace SpecForge.Text

/-- The length of the common beginning of two texts. -/
def commonLength : List Char → List Char → Nat
  | a :: as, b :: bs => if a = b then commonLength as bs + 1 else 0
  | _, _ => 0

/-- A part that two texts have in common: how many characters stand before it in each of them, and
its length. -/
structure CommonPart where
  first : Nat
  second : Nat
  length : Nat

/-- The longest common part; of several the one that comes first in the first text, and of those the
one that comes first in the second. -/
def longestCommonPart (as bs : List Char) : CommonPart :=
  let parts := (List.range as.length).flatMap fun i => (List.range bs.length).map fun j =>
    (⟨i, j, commonLength (as.drop i) (bs.drop j)⟩ : CommonPart)
  parts.foldl (fun best p => if best.length < p.length then p else best) ⟨0, 0, 0⟩

/-- How many characters are common: those of the longest common part, and of the texts on its two
sides. The first number bounds the length of the first text. -/
def commonFrom : Nat → List Char → List Char → Nat
  | 0, _, _ => 0
  | fuel + 1, as, bs =>
    let p := longestCommonPart as bs
    if p.length == 0 then 0
    else p.length + commonFrom fuel (as.take p.first) (bs.take p.second) +
      commonFrom fuel (as.drop (p.first + p.length)) (bs.drop (p.second + p.length))

/-- How many characters two texts have in common. -/
def commonCount (as bs : List Char) : Nat := commonFrom as.length as bs

/-- A name with the number of characters that it has in common with a word, and the number of
characters of both. -/
structure Likeness where
  name : String
  common : Nat
  total : Nat

namespace Likeness

/-- Are at least three characters in ten common? No more are common than the shorter text has. -/
def isEnough (common total : Nat) : Bool := 3 * total ≤ 10 * common

/-- The likeness of a name to a word, if it is enough. -/
def find? (word name : String) : Option Likeness :=
  let total := name.length + word.length
  if isEnough (min name.length word.length) total then
    let common := commonCount name.toList word.toList
    if isEnough common total then some ⟨name, common, total⟩ else none
  else none

/-- Does the first name come before the second? It has a greater part in common with the word, or
the same and is later in the alphabet. -/
def isBetter (l m : Likeness) : Bool :=
  if l.common * m.total == m.common * l.total then m.name ≤ l.name
  else m.common * l.total < l.common * m.total

end Likeness

/-- The names that are like a word, three at most, in alphabetical order. -/
def similar (names : List String) (word : String) : List String :=
  let best := ((names.filterMap (Likeness.find? word)).mergeSort Likeness.isBetter).take 3
  (best.map (·.name)).mergeSort (· ≤ ·)

end SpecForge.Text
