import SpecForge.Document.Yaml.Node

/-!
# Merging

A mapping takes over the pairs of the mappings that stand under its merging keys, in front of its
own pairs, so that its own take precedence. They are taken over for good: whoever comes upon the
mapping later finds all its pairs and no merging key. The equal sign is then a key like any other.
-/

namespace SpecForge.Yaml

/-- How many nodes deep merging, and the search for a text, may go. -/
def chainLimit : Nat := 982

namespace Graph

/-- The nodes with the keys of some pairs read as texts where they are equal signs. -/
def withPlainKeys (g : Graph) (pairs : List (Nat × Nat)) : Graph :=
  pairs.foldl (fun g p => if g.isTextKey p.1 then g.setTag p.1 (standardTag "str") else g) g

/-- The pairs of a mapping that stand before its first merging key, the value under that key, and
the pairs behind it. -/
def splitAtMerge? (g : Graph) :
    List (Nat × Nat) → Option (List (Nat × Nat) × Nat × List (Nat × Nat))
  | [] => none
  | p :: rest =>
    if g.isMergeKey p.1 then some ([], p.2, rest)
    else (g.splitAtMerge? rest).map fun (before, v, behind) => (p :: before, v, behind)

/-- The pairs that a mapping under a merging key gives, its own merging being done first. -/
def offered (merge : Nat → Graph → Except Fault Graph) (n : Nat) (g : Graph) :
    Except Fault (List (Nat × Nat) × Graph) :=
  match g.content n with
  | .mapping _ => (merge n g).map fun g => (g.pairs n, g)
  | _ => .error .mapping

/-- The pairs that several mappings give, those of the last one first. -/
def offeredByAll (merge : Nat → Graph → Except Fault Graph) (g : Graph) :
    List Nat → Except Fault (List (Nat × Nat) × Graph)
  | [] => .ok ([], g)
  | n :: rest => do
    let (pairs, g) ← offered merge n g
    let (later, g) ← offeredByAll merge g rest
    return (later ++ pairs, g)

/-- The pairs that the value of a merging key gives: those of a mapping, or of several. -/
def offeredUnder (merge : Nat → Graph → Except Fault Graph) (n : Nat) (g : Graph) :
    Except Fault (List (Nat × Nat) × Graph) :=
  match g.content n with
  | .sequence items => offeredByAll merge g items
  | _ => offered merge n g

/-- Takes over what stands under the merging keys of a mapping, one key after the other. The first
number bounds their count. A mapping may come upon itself, so its pairs are looked up each time. -/
def mergeKeys (merge : Nat → Graph → Except Fault Graph) (n : Nat) :
    Nat → List (Nat × Nat) → Graph → Except Fault Graph
  | 0, taken, g => .ok (g.setContent n (.mapping (taken ++ g.pairs n)))
  | count + 1, taken, g =>
    match g.splitAtMerge? (g.pairs n) with
    | none => .ok (g.setContent n (.mapping (taken ++ g.pairs n)))
    | some (before, value, behind) => do
      let g := g.setContent n (.mapping (before ++ behind))
      let (more, g) ← offeredUnder merge value g
      mergeKeys merge n count (taken ++ more) g

/-- Merges what a mapping is to take over; the first number is how deep this may go. -/
def merge : Nat → Nat → Graph → Except Fault Graph
  | 0, _, _ => .error .depth
  | room + 1, n, g =>
    let pairs := g.pairs n
    mergeKeys (merge room) n pairs.length [] (g.withPlainKeys pairs)

end Graph

end SpecForge.Yaml
