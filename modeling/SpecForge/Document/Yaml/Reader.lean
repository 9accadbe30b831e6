import SpecForge.Document.Placement
import SpecForge.Document.Yaml.Composition
import SpecForge.Document.Yaml.Part
import SpecForge.Document.Yaml.Token.Lexer

/-!
# Reading YAML

A text is read in three steps: tokens, nodes, the value. A text with a character that is
not allowed anywhere is refused before the first step.

The value of a document is put together from the parts of its nodes, those of a node before the node
itself, so a node that stands in many places has its value once. A node may lead back to itself.
There the value of the round before is put in, in the first round one that is cut off; there are as
many rounds as a reading can come back to the same nodes.
-/

namespace SpecForge.Yaml

/-! ## Values of nodes -/

namespace Parts

/-- What a node is; one that has not been come upon is nothing. -/
def part (m : Parts) (n : Nat) : Part := (m.part? n).getD (.single .null false)

/-- The nodes in the order in which they are complete, behind those that come before, with marks
for the nodes that have been gone through. The first number bounds the way. -/
def visit (m : Parts) : Nat → Array Bool × Array Nat → Nat → Array Bool × Array Nat
  | 0, s, _ => s
  | fuel + 1, (seen, order), n =>
    if seen.getD n true then (seen, order)
    else
      let (seen, order) :=
        (m.part n).numbers.foldl (visit m fuel) (seen.setIfInBounds n true, order)
      (seen, order.push n)

/-- The nodes that a node leads to in the order in which they are complete. -/
def completion (m : Parts) (root : Nat) : Array Nat :=
  (m.visit (m.parts.size + 1) (Array.replicate m.parts.size false, #[]) root).2

end Parts

/-- Which nodes are complete, which of them lead back to one that is not, and how many such ways
there are. -/
structure Cycles where
  isComplete : Array Bool
  leadsBack : Array Bool
  count : Nat

/-- Completes a node. -/
def Cycles.complete (m : Parts) (c : Cycles) (n : Nat) : Cycles :=
  let numbers := (m.part n).numbers
  let back := numbers.filter fun k => !c.isComplete.getD k true
  let leadsBack := !back.isEmpty || numbers.any fun k => c.leadsBack.getD k false
  ⟨c.isComplete.setIfInBounds n true, c.leadsBack.setIfInBounds n leadsBack,
    c.count + back.length⟩

/-- The cycles among nodes that are completed in an order. -/
def Cycles.ofOrder (m : Parts) (order : Array Nat) : Cycles :=
  let none := Array.replicate m.parts.size false
  order.foldl (complete m) ⟨none, none, 0⟩

/-- A node where it stands inside itself. -/
def Part.cutOff (number : Nat) : Part → Value
  | .single v _ => v
  | .set _ => .set []
  | .object _ => .loop number (.object [(.dots, .null)])
  | _ => .loop number (.list [.dots])

/-- What a node is, with the values of the nodes in it. -/
def Part.value (values : Array Value) : Part → Value
  | .single v _ => v
  | .list items => .list (items.map fun n => values.getD n .null)
  | .entries ps => .list (ps.map fun p => .pair (values.getD p.1 .null) (values.getD p.2 .null))
  | .set keys => .set (Placement.shown (keys.map fun n => values.getD n .null))
  | .object ms => .object (ms.map fun m => (values.getD m.1 .null, values.getD m.2 .null))

namespace Parts

/-- One round: the value of each node is put together from those of the nodes in it. -/
def round (m : Parts) (order : Array Nat) (cycles : Cycles) (values : Array Value) : Array Value :=
  order.foldl (fun values n =>
    let v := (m.part n).value values
    values.setIfInBounds n (if cycles.leadsBack.getD n false then .loop n v else v)) values

/-- Some number of rounds. -/
def rounds (m : Parts) (order : Array Nat) (cycles : Cycles) : Nat → Array Value → Array Value
  | 0, values => values
  | count + 1, values => rounds m order cycles count (m.round order cycles values)

/-- How often a reading comes back to the same node on purpose: as often as the shapes of documents
are deep. -/
def depthOfShapes : Nat := 16

/-- The value of a node. Spelling a value goes each way back once, after a reading. -/
def value (m : Parts) (root : Nat) : Value :=
  let order := m.completion root
  let cycles := Cycles.ofOrder m order
  let count := if cycles.count == 0 then 1 else cycles.count + depthOfShapes
  let start := (Array.range m.parts.size).map fun n => (m.part n).cutOff n
  (m.rounds order cycles count start).getD root .null

end Parts

/-- The value that a node of a document has. -/
def Graph.value (g : Graph) (root : Nat) : Except Fault Value := do
  return (← Parts.ofRoot g root).value root

/-! ## The reader -/

/-- The characters that a text may hold. -/
def isAcceptable (c : Char) : Bool :=
  let n := c.toNat
  c == '\t' || c == '\n' || c == '\r' || (0x20 ≤ n && n ≤ 0x7e) || n == 0x85 ||
    (0xa0 ≤ n && n ≤ 0xd7ff) || (0xe000 ≤ n && n ≤ 0xfffd) || 0x10000 ≤ n

/-- The document that a text holds; an empty text holds nothing. -/
def read (s : String) : Except Fault Value := do
  let cs := s.toList
  match cs.find? fun c => !isAcceptable c with
  | some c => throw (.character c)
  | none =>
    let (tokens, fault) := Token.ofText cs
    match ← Graph.ofTokens tokens (fault.getD (.scanning .token)) with
    | some (root, g) => g.value root
    | none => return .null

end SpecForge.Yaml
