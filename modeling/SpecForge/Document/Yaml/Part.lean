import SpecForge.Document.Yaml.Merge
import SpecForge.Document.Yaml.ScalarValue

/-!
# Parts

What each node of a document is by its tag: a single value, or a collection whose parts are other
nodes. Texts are read where they are come upon; a collection is only noted there, and its parts are
looked at after those of all collections that were noted before it. So of several faults the one
that is least deep counts, and of those the first. Looking at the parts of a mapping merges it,
which later ones see.
-/

namespace SpecForge.Yaml

/-- What a node is; the nodes in it are told by their numbers. The number that is none may be
written by its name, and then it is one and the same wherever it stands. -/
inductive Part where
  | single (value : Value) (isNamedNan : Bool)
  | list (items : List Nat)
  | entries (pairs : List (Nat × Nat))
  | set (keys : List Nat)
  | object (members : List (Nat × Nat))

/-- The kinds of collections. -/
inductive Kind where
  | seq
  | omap
  | pairs
  | set
  | map
deriving DecidableEq

/-- The short names of the tags of collections. -/
def Kind.names : List (String × Kind) :=
  [("omap", .omap), ("pairs", .pairs), ("set", .set), ("seq", .seq), ("map", .map)]

/-- The kind of collection that a tag means. -/
def Kind.ofTag? (tag : String) : Option Kind :=
  (Kind.names.find? fun k => standardTag k.1 == tag).map Prod.snd

/-- The short names of the tags whose nodes have a text. -/
def scalarNames : List String := ["null", "bool", "int", "float", "binary", "timestamp", "str"]

/-- The short name of a tag whose nodes have a text. -/
def scalarName? (tag : String) : Option String := scalarNames.find? fun s => standardTag s == tag

/-- A collection of a kind of which no part has been looked at. -/
def Part.blank : Kind → Part
  | .seq => .list []
  | .omap => .entries []
  | .pairs => .entries []
  | .set => .set []
  | .map => .object []

/-- The single value that a text is by the short name of its tag. -/
def Part.ofText (name text : String) : Except Fault Part := do
  return .single (← scalarValue name text) (name == "float" && (floatText text).2 == nanName)

/-- May it be a key? Collections may not. -/
def Part.isKey : Part → Bool
  | .single _ _ => true
  | _ => false

/-- The numbers of the nodes in it. -/
def Part.numbers : Part → List Nat
  | .single _ _ => []
  | .list items => items
  | .entries ps => ps.flatMap fun p => [p.1, p.2]
  | .set keys => keys
  | .object ms => ms.flatMap fun m => [m.1, m.2]

/-- The nodes of a document, what those are that have been come upon, and the collections among
them in their order. -/
structure Parts where
  graph : Graph
  parts : Array (Option Part)
  noted : Array (Nat × Kind)

namespace Parts

/-- Nothing has been come upon. -/
def start (g : Graph) : Parts := ⟨g, Array.replicate g.nodes.size none, #[]⟩

/-- What a node is, if it has been come upon. -/
def part? (m : Parts) (n : Nat) : Option Part := m.parts.getD n none

/-- Says what a node is. -/
def put (m : Parts) (n : Nat) (p : Part) : Parts := { m with parts := m.parts.setIfInBounds n p }

/-- Comes upon a node: a text is read, a collection is noted. -/
def meet (m : Parts) (n : Nat) : Except Fault Parts :=
  if (m.part? n).isSome then .ok m
  else
    let tag := m.graph.tag n
    match scalarName? tag, Kind.ofTag? tag with
    | some name, _ => do
      let text ← m.graph.text chainLimit n
      if name == "timestamp" && (m.graph.content n).shape != .scalar then throw .textInside
      return m.put n (← Part.ofText name text)
    | none, some kind => .ok { m.put n (.blank kind) with noted := m.noted.push (n, kind) }
    | none, none => .error (.unknownTag tag)

/-- Are two nodes equal as keys? -/
def sameKey (m : Parts) (a b : Nat) : Bool :=
  a == b || match m.part? a, m.part? b with
    | some (.single v isNan), some (.single w isNan') => v.same w || (isNan && isNan')
    | _, _ => false

/-- Adds a member at the end, or puts its value in the place of the one that has the key already. -/
def addMember (m : Parts) (members : List (Nat × Nat)) (p : Nat × Nat) : List (Nat × Nat) :=
  if members.any fun q => m.sameKey q.1 p.1 then
    members.map fun q => if m.sameKey q.1 p.1 then (q.1, p.2) else q
  else members ++ [p]

/-- Comes upon the key and the value of a pair. -/
def meetPair (m : Parts) (p : Nat × Nat) : Except Fault Parts := do
  let m ← m.meet p.1
  if ((m.part? p.1).map Part.isKey).getD false then m.meet p.2 else throw .mapping

/-- The members of a mapping, which is merged before. -/
def members (m : Parts) (n : Nat) : Except Fault (List (Nat × Nat) × Parts) :=
  match m.graph.content n with
  | .mapping _ => do
    let m := { m with graph := ← m.graph.merge chainLimit n }
    let pairs := m.graph.pairs n
    let m ← pairs.foldlM meetPair m
    return (pairs.foldl m.addMember [], m)
  | c => .error (.wrongShape .mapping c.shape)

/-- The pairs of a list of mappings that have one pair each. -/
def entries (m : Parts) (fault : Fault) (n : Nat) : Except Fault Parts :=
  match m.graph.content n with
  | .sequence items => do
    let (ps, m) ← items.foldlM (fun (ps, m) item => match m.graph.content item with
      | .mapping [p] => do return (p :: ps, ← (← m.meet p.1).meet p.2)
      | _ => throw fault) (([], m) : List (Nat × Nat) × Parts)
    return m.put n (.entries ps.reverse)
  | _ => .error fault

/-- Looks at the parts of a collection. -/
def look (m : Parts) (n : Nat) : Kind → Except Fault Parts
  | .seq => match m.graph.content n with
    | .sequence items => do return (← items.foldlM meet m).put n (.list items)
    | c => .error (.wrongShape .sequence c.shape)
  | .omap => m.entries .orderedMap n
  | .pairs => m.entries .pairs n
  | .set => do
    let (ms, m) ← m.members n
    return m.put n (.set (ms.map Prod.fst))
  | .map => do
    let (ms, m) ← m.members n
    return m.put n (.object ms)

/-- Looks at the collections from some place in their order on. The first number bounds their
count. -/
def lookFrom : Nat → Nat → Parts → Except Fault Parts
  | 0, _, m => .ok m
  | count + 1, next, m =>
    match m.noted[next]? with
    | none => .ok m
    | some (n, kind) => do lookFrom count (next + 1) (← m.look n kind)

/-- What the nodes are that a node leads to. -/
def ofRoot (g : Graph) (root : Nat) : Except Fault Parts := do
  lookFrom (g.nodes.size + 1) 0 (← (start g).meet root)

end Parts

end SpecForge.Yaml
