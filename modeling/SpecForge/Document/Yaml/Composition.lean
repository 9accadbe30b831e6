import SpecForge.Document.Yaml.Node
import SpecForge.Document.Yaml.Token

/-!
# Composition

The nodes that the tokens of a document describe. An alias stands for the node it names, also inside
that node. Tokens may break off with a fault, which is met where the first missing token would be
needed.
-/

namespace SpecForge.Yaml

/-- What the reading of nodes carries along: the tokens that are left, the nodes, and the numbers of
those that have a name. -/
structure Reading where
  tokens : List Token
  graph : Graph
  anchors : List (String × Nat)

/-- The fixed surroundings of a reading: why the tokens end, and what tag handles stand for. -/
structure Setting where
  broken : Fault
  handles : List (String × String)

namespace Reading

/-- The next token. -/
def peek (s : Setting) (r : Reading) : Except Fault Token :=
  match r.tokens with
  | t :: _ => .ok t
  | [] => .error s.broken

/-- The reading behind the next token. -/
def skip (r : Reading) : Reading := { r with tokens := r.tokens.tail }

/-- The reading that begins with some tokens. -/
def start (tokens : List Token) : Reading := ⟨tokens, ⟨#[]⟩, []⟩

/-- Adds a node. -/
def add (r : Reading) (x : Node) : Nat × Reading :=
  let (n, g) := r.graph.add x
  (n, { r with graph := g })

/-- Adds a node where nothing is written. -/
def addEmpty (r : Reading) : Nat × Reading := r.add .empty

/-- Adds a node with a name, if it has one. A name must not be given twice. -/
def enter (r : Reading) (anchor : Option String) (x : Node) : Except Fault (Nat × Reading) :=
  match anchor with
  | none => .ok (r.add x)
  | some a =>
    if (r.anchors.lookup a).isSome then .error (.repeatedAnchor a)
    else
      let (n, r) := r.add x
      .ok (n, { r with anchors := (a, n) :: r.anchors })

/-- Ends a collection, whose parts have been read. -/
def close (r : Reading) (n : Nat) (c : Content) : Nat × Reading :=
  (n, { r with graph := r.graph.setContent n c })

end Reading

/-- What stands before the content of a node: its name and its tag. -/
structure Properties where
  anchor : Option String
  tag : Option (Option String × String)

/-- The name and the tag of a node, in either order. -/
def Properties.read (s : Setting) (r : Reading) : Except Fault (Properties × Reading) := do
  match ← r.peek s with
  | .anchor name =>
    let r := r.skip
    match ← r.peek s with
    | .tag handle ending => return (⟨some name, some (handle, ending)⟩, r.skip)
    | _ => return (⟨some name, none⟩, r)
  | .tag handle ending =>
    let r := r.skip
    match ← r.peek s with
    | .anchor name => return (⟨some name, some (handle, ending)⟩, r.skip)
    | _ => return (⟨none, some (handle, ending)⟩, r)
  | _ => return (⟨none, none⟩, r)

/-- The tag with its handle resolved; a lone mark is no tag. -/
def Properties.resolvedTag (s : Setting) (p : Properties) : Except Fault (Option String) :=
  match p.tag with
  | none => .ok none
  | some (none, ending) => .ok (some ending)
  | some (some handle, ending) => match s.handles.lookup handle with
    | some expansion => .ok (some (expansion ++ ending))
    | none => .error (.parsing .node)

/-- Where a node stands: in a block, in a block where a sequence need not be indented, or inside
brackets. -/
inductive Place where
  | block
  | blockValue
  | flow
deriving DecidableEq

/-- The phrase that is faulty where a node is missing. -/
def Place.phrase : Place → Phrase
  | .flow => .flowNode
  | _ => .blockNode

/-- The tag of a collection: its own, or that of its shape. -/
def collectionTag (own : Option String) (standard : String) : String :=
  match own with
  | some t => if t == "!" then standardTag standard else t
  | none => standardTag standard

/-- The tag of a scalar: its own, or that of its form. A lone mark makes a form count even if the
scalar is not plain. -/
def scalarTag (own : Option String) (text : String) (isPlain : Bool) : String :=
  match own with
  | some t => if t == "!" then standardTag (plainTag text) else t
  | none => standardTag (if isPlain then plainTag text else "str")

/-- Do these tokens begin the next entry of a block mapping, or end it? -/
def endsBlockPart : Token → Bool
  | .key => true
  | .value => true
  | .blockEnd => true
  | _ => false

/-- How deep collections may lie in each other. -/
def depthLimit : Nat := 490

/-- One level less, if there is one. -/
def deeper : Nat → Except Fault Nat
  | 0 => .error .depth
  | room + 1 => .ok room

mutual

/-- A node. The first number bounds the steps, the second is how many levels there may be. -/
def node (s : Setting) : Nat → Nat → Place → Reading → Except Fault (Nat × Reading)
  | 0, _, _, _ => .error s.broken
  | fuel + 1, room, place, r => do
    match ← r.peek s with
    | .alias name =>
      match r.anchors.lookup name with
      | some n => return (n, r.skip)
      | none => throw (.undefinedAlias name)
    | _ =>
      let (p, r) ← Properties.read s r
      let own ← p.resolvedTag s
      let sequence : Node := ⟨collectionTag own "seq", .sequence []⟩
      let mapping : Node := ⟨collectionTag own "map", .mapping []⟩
      let t ← r.peek s
      if place == .blockValue && t == .blockEntry then
        let room ← deeper room
        let (n, r) ← r.enter p.anchor sequence
        let (items, r) ← indentlessItems s fuel room r
        return r.close n (.sequence items)
      else match t with
        | .scalar text isPlain =>
          r.skip.enter p.anchor ⟨scalarTag own text isPlain, .scalar text⟩
        | .flowSequenceStart =>
          let room ← deeper room
          let (n, r) ← r.skip.enter p.anchor sequence
          let (items, r) ← flowItems s fuel room true r
          return r.close n (.sequence items)
        | .flowMappingStart =>
          let room ← deeper room
          let (n, r) ← r.skip.enter p.anchor mapping
          let (pairs, r) ← flowPairs s fuel room true r
          return r.close n (.mapping pairs)
        | t =>
          if place != .flow && t == .blockSequenceStart then
            let room ← deeper room
            let (n, r) ← r.skip.enter p.anchor sequence
            let (items, r) ← blockItems s fuel room r
            return r.close n (.sequence items)
          else if place != .flow && t == .blockMappingStart then
            let room ← deeper room
            let (n, r) ← r.skip.enter p.anchor mapping
            let (pairs, r) ← blockPairs s fuel room r
            return r.close n (.mapping pairs)
          else if p.anchor.isSome || p.tag.isSome then
            r.enter p.anchor ⟨scalarTag own "" own.isNone, .scalar ""⟩
          else throw (.parsing place.phrase)

/-- The items of a block sequence up to its end. -/
def blockItems (s : Setting) : Nat → Nat → Reading → Except Fault (List Nat × Reading)
  | 0, _, _ => .error s.broken
  | fuel + 1, room, r => do
    match ← r.peek s with
    | .blockEntry =>
      let r := r.skip
      let t ← r.peek s
      let (n, r) ←
        if t == .blockEntry || t == .blockEnd then pure r.addEmpty
        else node s fuel room .block r
      let (rest, r) ← blockItems s fuel room r
      return (n :: rest, r)
    | .blockEnd => return ([], r.skip)
    | _ => throw (.parsing .blockCollection)

/-- The items of a sequence that is not indented, up to the first token that is no entry. -/
def indentlessItems (s : Setting) : Nat → Nat → Reading → Except Fault (List Nat × Reading)
  | 0, _, _ => .error s.broken
  | fuel + 1, room, r => do
    match ← r.peek s with
    | .blockEntry =>
      let r := r.skip
      let t ← r.peek s
      let (n, r) ←
        if t == .blockEntry || endsBlockPart t then pure r.addEmpty
        else node s fuel room .block r
      let (rest, r) ← indentlessItems s fuel room r
      return (n :: rest, r)
    | _ => return ([], r)

/-- The pairs of a block mapping up to its end. -/
def blockPairs (s : Setting) : Nat → Nat → Reading → Except Fault (List (Nat × Nat) × Reading)
  | 0, _, _ => .error s.broken
  | fuel + 1, room, r => do
    match ← r.peek s with
    | .blockEnd => return ([], r.skip)
    | .key =>
      let r := r.skip
      let t ← r.peek s
      let (k, r) ←
        if endsBlockPart t then pure r.addEmpty else node s fuel room .blockValue r
      let (v, r) ← blockPairValue s fuel room r
      let (rest, r) ← blockPairs s fuel room r
      return ((k, v) :: rest, r)
    | _ => throw (.parsing .blockMapping)

/-- The value of a pair of a block mapping. -/
def blockPairValue (s : Setting) : Nat → Nat → Reading → Except Fault (Nat × Reading)
  | 0, _, _ => .error s.broken
  | fuel + 1, room, r => do
    match ← r.peek s with
    | .value =>
      let r := r.skip
      let t ← r.peek s
      if endsBlockPart t then return r.addEmpty else node s fuel room .blockValue r
    | _ => return r.addEmpty

/-- The items of a sequence in brackets, up to the closing one. -/
def flowItems (s : Setting) : Nat → Nat → Bool → Reading → Except Fault (List Nat × Reading)
  | 0, _, _, _ => .error s.broken
  | fuel + 1, room, isFirst, r => do
    let t ← r.peek s
    if t == .flowSequenceEnd then return ([], r.skip)
    let r ←
      if isFirst then pure r
      else if t == .flowEntry then pure r.skip
      else throw (.parsing .flowSequence)
    match ← r.peek s with
    | .flowSequenceEnd => return ([], r.skip)
    | .key =>
      let inner ← deeper room
      let (n, r) := r.skip.add ⟨standardTag "map", .mapping []⟩
      let t ← r.peek s
      let (k, r) ←
        if t == .value || t == .flowEntry || t == .flowSequenceEnd then pure r.addEmpty
        else node s fuel inner .flow r
      let (v, r) ← flowValue s fuel inner .flowSequenceEnd r
      let (n, r) := r.close n (.mapping [(k, v)])
      let (rest, r) ← flowItems s fuel room false r
      return (n :: rest, r)
    | _ =>
      let (n, r) ← node s fuel room .flow r
      let (rest, r) ← flowItems s fuel room false r
      return (n :: rest, r)

/-- The pairs of a mapping in braces, up to the closing one. -/
def flowPairs (s : Setting) :
    Nat → Nat → Bool → Reading → Except Fault (List (Nat × Nat) × Reading)
  | 0, _, _, _ => .error s.broken
  | fuel + 1, room, isFirst, r => do
    let t ← r.peek s
    if t == .flowMappingEnd then return ([], r.skip)
    let r ←
      if isFirst then pure r
      else if t == .flowEntry then pure r.skip
      else throw (.parsing .flowMapping)
    match ← r.peek s with
    | .flowMappingEnd => return ([], r.skip)
    | .key =>
      let r := r.skip
      let t ← r.peek s
      let (k, r) ←
        if t == .value || t == .flowEntry || t == .flowMappingEnd then pure r.addEmpty
        else node s fuel room .flow r
      let (v, r) ← flowValue s fuel room .flowMappingEnd r
      let (rest, r) ← flowPairs s fuel room false r
      return ((k, v) :: rest, r)
    | _ =>
      let (k, r) ← node s fuel room .flow r
      let (v, r) := r.addEmpty
      let (rest, r) ← flowPairs s fuel room false r
      return ((k, v) :: rest, r)

/-- The value of a pair inside brackets that are closed by the given token. -/
def flowValue (s : Setting) : Nat → Nat → Token → Reading → Except Fault (Nat × Reading)
  | 0, _, _, _ => .error s.broken
  | fuel + 1, room, closing, r => do
    match ← r.peek s with
    | .value =>
      let r := r.skip
      let t ← r.peek s
      if t == .flowEntry || t == closing then return r.addEmpty else node s fuel room .flow r
    | _ => return r.addEmpty

end

/-! ## Documents -/

/-- The directives at the head of a document: whether a version was given, and the tag handles. -/
def readDirectives (broken : Fault) :
    List Token → Bool → List (String × String) → Except Fault (List (String × String) × List Token)
  | [], _, _ => .error broken
  | .directive d :: rest, hasVersion, handles =>
    match d with
    | .version major =>
      if hasVersion then .error .repeatedVersion
      else if major != 1 then .error .foreignVersion
      else readDirectives broken rest true handles
    | .handle name expansion =>
      if (handles.lookup name).isSome then .error (.repeatedHandle name)
      else readDirectives broken rest hasVersion (handles ++ [(name, expansion)])
    | .other => readDirectives broken rest hasVersion handles
  | ts, _, handles => .ok (handles, ts)

/-- What tag handles stand for where no directive says so. -/
def standardHandles : List (String × String) := [("!", "!"), ("!!", standardTag "")]

/-- The beginning of a document that is marked by a line: the handles and the tokens behind the
mark; nothing at the end of the text. Ends of documents before it are passed over. -/
def documentStart (broken : Fault) (tokens : List Token) :
    Except Fault (Option (List (String × String) × List Token)) := do
  match tokens.dropWhile (· == .documentEnd) with
  | [] => throw broken
  | .streamEnd :: _ => return none
  | ts =>
    match ← readDirectives broken ts false [] with
    | (handles, .documentStart :: rest) => return some (handles ++ standardHandles, rest)
    | (_, t :: _) => throw (.noDocumentStart t.name)
    | (_, []) => throw broken

/-- Does the token show that a document has no content? -/
def isEmptyDocument : Token → Bool
  | .directive _ => true
  | .documentStart => true
  | .documentEnd => true
  | .streamEnd => true
  | _ => false

/-- The node that tokens begin with, and the reading behind it. -/
def wholeNode (s : Setting) (tokens : List Token) : Except Fault (Nat × Reading) :=
  node s (4 * tokens.length + 4) depthLimit .block (.start tokens)

/-- The content of a document whose beginning is marked. -/
def documentContent (s : Setting) (tokens : List Token) : Except Fault (Nat × Reading) := do
  let t ← (Reading.start tokens).peek s
  if isEmptyDocument t then return (Reading.start tokens).addEmpty else wholeNode s tokens

/-- The nodes of the only document of a text, with the number of the one that holds all others; none
if the text is empty. -/
def Graph.ofTokens (tokens : List Token) (broken : Fault) :
    Except Fault (Option (Nat × Graph)) := do
  let marked : Except Fault (Option (Nat × Reading)) := do
    match ← documentStart broken tokens with
    | none => return none
    | some (handles, ts) => return some (← documentContent ⟨broken, handles⟩ ts)
  let document ← match tokens with
    | [] => throw broken
    | .streamEnd :: _ => pure none
    | .directive _ :: _ => marked
    | .documentStart :: _ => marked
    | ts => some <$> wholeNode ⟨broken, standardHandles⟩ ts
  match document with
  | none => return none
  | some (n, r) =>
    if (← documentStart broken r.tokens).isSome then throw .manyDocuments
    return some (n, r.graph)

end SpecForge.Yaml
