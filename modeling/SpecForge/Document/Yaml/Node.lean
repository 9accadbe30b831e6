import SpecForge.Document.Yaml.Fault
import SpecForge.Document.Yaml.Tag

/-!
# Nodes

A node is a part of a document with a tag: a text, a row of nodes, or pairs of nodes. The nodes of a
document are numbered, and a node holds others by their numbers, so one node can stand in many
places, also inside itself. What becomes of a node in one place is seen in all of them.
-/

namespace SpecForge.Yaml

/-- What a node consists of; the nodes in it are told by their numbers. -/
inductive Content where
  | scalar (text : String)
  | sequence (items : List Nat)
  | mapping (pairs : List (Nat × Nat))

/-- The shape of what a node consists of. -/
def Content.shape : Content → Shape
  | .scalar _ => .scalar
  | .sequence _ => .sequence
  | .mapping _ => .mapping

/-- A part of a document. -/
structure Node where
  tag : String
  content : Content

/-- The node where nothing is written. -/
def Node.empty : Node := ⟨standardTag "null", .scalar ""⟩

/-- The nodes of a document by their numbers. -/
structure Graph where
  nodes : Array Node

namespace Graph

/-- The node with a number. -/
def node (g : Graph) (n : Nat) : Node := g.nodes.getD n .empty

/-- The tag of a node. -/
def tag (g : Graph) (n : Nat) : String := (g.node n).tag

/-- What a node consists of. -/
def content (g : Graph) (n : Nat) : Content := (g.node n).content

/-- The pairs of a mapping; other nodes have none. -/
def pairs (g : Graph) (n : Nat) : List (Nat × Nat) :=
  match g.content n with
  | .mapping ps => ps
  | _ => []

/-- Adds a node; its number is the next one. -/
def add (g : Graph) (x : Node) : Nat × Graph := (g.nodes.size, ⟨g.nodes.push x⟩)

/-- Gives a node another content. -/
def setContent (g : Graph) (n : Nat) (c : Content) : Graph :=
  ⟨g.nodes.modify n fun x => { x with content := c }⟩

/-- Gives a node another tag. -/
def setTag (g : Graph) (n : Nat) (tag : String) : Graph :=
  ⟨g.nodes.modify n fun x => { x with tag := tag }⟩

/-- Is the node a key that merges mappings? -/
def isMergeKey (g : Graph) (n : Nat) : Bool := g.tag n == standardTag "merge"

/-- Is the node the key under which a mapping gives its text? -/
def isTextKey (g : Graph) (n : Nat) : Bool := g.tag n == standardTag "value"

/-- The text of a node that has one: a scalar, or a mapping that gives it under the equal sign. The
first number is how long a chain of such mappings may be. -/
def text (g : Graph) : Nat → Nat → Except Fault String
  | 0, _ => .error .depth
  | room + 1, n =>
    match g.content n with
    | .scalar s => .ok s
    | .sequence _ => .error (.wrongShape .scalar .sequence)
    | .mapping ps => match ps.find? fun p => g.isTextKey p.1 with
      | some p => text g room p.2
      | none => .error (.wrongShape .scalar .mapping)

end Graph

end SpecForge.Yaml
