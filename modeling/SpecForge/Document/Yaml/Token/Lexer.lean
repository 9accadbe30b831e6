import SpecForge.Document.Yaml.Token

/-!
# From characters to tokens

Indentation is made visible by tokens that open and close blocks. A key that has no mark in front of
it is noticed only at the colon behind it; what may be such a key is therefore kept back until the
colon comes or can no longer come. The tokens are given as far as they are certain, with the fault
that ends the reading, if there is one.
-/

namespace SpecForge.Yaml

open Cursor

/-- A place where a key may have begun: the number of the token there, whether the key must be one,
and the place in the text. -/
structure SimpleKey where
  number : Nat
  isRequired : Bool
  index : Nat
  line : Nat
  column : Nat

/-- The state of the reading. Tokens that are not yet certain stand in the queue, and `given` counts
those that have left it. At each level of brackets there is at most one possible key. -/
structure Lexer where
  cursor : Cursor
  flowLevel : Nat
  indent : Int
  outer : List Int
  allowsKey : Bool
  keys : List (Nat × SimpleKey)
  queue : List Token
  given : Nat
  isDone : Bool

namespace Lexer

/-- The state at the beginning of a text. -/
def start (cs : List Char) : Lexer :=
  { cursor := .start cs, flowLevel := 0, indent := -1, outer := [], allowsKey := true, keys := [],
    queue := [], given := 0, isDone := false }

/-- Is the reading inside brackets? -/
def inFlow (l : Lexer) : Bool := l.flowLevel != 0

/-- Adds a token to the queue. -/
def push (l : Lexer) (t : Token) : Lexer := { l with queue := l.queue ++ [t] }

/-- The possible key at the present level. -/
def key? (l : Lexer) : Option SimpleKey := l.keys.lookup l.flowLevel

/-- Forgets the possible key at the present level. -/
def forgetKey (l : Lexer) : Lexer :=
  { l with keys := l.keys.filter fun k => k.1 != l.flowLevel }

/-- Gives up the possible key at the present level; one that must be a key is at fault. -/
def dropKey (l : Lexer) : Except Fault Lexer :=
  match l.key? with
  | some key => if key.isRequired then .error (.scanning .simpleKey) else .ok l.forgetKey
  | none => .ok l

/-- Notes that a key may begin here. -/
def noteKey (l : Lexer) : Except Fault Lexer := do
  if !l.allowsKey then return l
  let isRequired := !l.inFlow && l.indent == l.cursor.column
  let l ← l.dropKey
  let key : SimpleKey :=
    ⟨l.given + l.queue.length, isRequired, l.cursor.index, l.cursor.line, l.cursor.column⟩
  return { l with keys := l.keys ++ [(l.flowLevel, key)] }

/-- The longest distance between the beginning of a key and its colon. -/
def keyWidth : Nat := 1024

/-- Can the colon of a possible key no longer come? -/
def isStale (l : Lexer) (key : SimpleKey) : Bool :=
  key.line != l.cursor.line || keyWidth < l.cursor.index - key.index

/-- Gives up the possible keys whose colon can no longer come. -/
def dropStale (l : Lexer) : Except Fault Lexer :=
  if l.keys.any fun k => l.isStale k.2 && k.2.isRequired then .error (.scanning .simpleKey)
  else .ok { l with keys := l.keys.filter fun k => !l.isStale k.2 }

/-- Closes the blocks that are indented more than the column. -/
def closeTo (column : Int) : List Int → Lexer → Lexer
  | [], l => l
  | i :: rest, l =>
    if column < l.indent then
      closeTo column rest { l.push .blockEnd with indent := i, outer := rest }
    else l

/-- Closes blocks by the column of the next token; inside brackets columns mean nothing. -/
def unwind (l : Lexer) (column : Int) : Lexer :=
  if l.inFlow then l else closeTo column l.outer l

/-- Opens a block at a column, unless one of this indentation is open; the token goes to the place
in the queue. -/
def openBlock (l : Lexer) (column : Nat) (place : Nat) (t : Token) : Lexer :=
  if l.indent < column then
    { l with outer := l.indent :: l.outer, indent := column, queue := l.queue.insertIdx place t }
  else l

/-- Adds a token of some characters. -/
def emit (l : Lexer) (t : Token) (width : Nat) : Lexer :=
  { l.push t with cursor := l.cursor.forward width }

/-- Goes to the next token, over spaces, comments and line breaks. The first argument bounds the
number of lines. -/
def skip : Nat → Lexer → Lexer
  | 0, l => l
  | fuel + 1, l =>
    let c := l.cursor.skipSpaces.skipComment
    match c.lineBreak? with
    | some (_, c) => skip fuel { l with cursor := c, allowsKey := l.allowsKey || !l.inFlow }
    | none => { l with cursor := c }

/-- Goes to the next token; a byte order mark at the very beginning is passed over. -/
def skipToToken (l : Lexer) : Lexer :=
  let c := l.cursor
  let c := if c.index == 0 && c.head == '\ufeff' then c.next else c
  skip (c.left + 1) { l with cursor := c }

/-- The end of the text closes all blocks. -/
def readEnd (l : Lexer) : Except Fault Lexer := do
  let l ← (l.unwind (-1)).dropKey
  return { l.push .streamEnd with keys := [], allowsKey := false, isDone := true }

/-- A directive. -/
def readDirective (l : Lexer) : Except Fault Lexer := do
  let l ← (l.unwind (-1)).dropKey
  let (d, c) ← directive l.cursor
  return { l.push (.directive d) with cursor := c, allowsKey := false }

/-- A mark between documents. -/
def readDocumentMark (l : Lexer) (t : Token) : Except Fault Lexer := do
  let l ← (l.unwind (-1)).dropKey
  return { l.emit t 3 with allowsKey := false }

/-- An opening bracket. -/
def readOpening (l : Lexer) (t : Token) : Except Fault Lexer := do
  let l ← l.noteKey
  return { l.emit t 1 with flowLevel := l.flowLevel + 1, allowsKey := true }

/-- A closing bracket. -/
def readClosing (l : Lexer) (t : Token) : Except Fault Lexer := do
  let l ← l.dropKey
  return { l.emit t 1 with flowLevel := l.flowLevel - 1, allowsKey := false }

/-- A comma. -/
def readFlowEntry (l : Lexer) : Except Fault Lexer := do
  let l ← { l with allowsKey := true }.dropKey
  return l.emit .flowEntry 1

/-- The hyphen before an entry of a block. -/
def readBlockEntry (l : Lexer) : Except Fault Lexer := do
  if !l.inFlow && !l.allowsKey then throw .misplacedEntry
  let l := if l.inFlow then l else l.openBlock l.cursor.column l.queue.length .blockSequenceStart
  let l ← { l with allowsKey := true }.dropKey
  return l.emit .blockEntry 1

/-- The question mark before a key. -/
def readKey (l : Lexer) : Except Fault Lexer := do
  if !l.inFlow && !l.allowsKey then throw .misplacedKey
  let l := if l.inFlow then l else l.openBlock l.cursor.column l.queue.length .blockMappingStart
  let l ← { l with allowsKey := !l.inFlow }.dropKey
  return l.emit .key 1

/-- The colon before a value. What was a possible key becomes one. -/
def readValue (l : Lexer) : Except Fault Lexer :=
  match l.key? with
  | some key =>
    let place := key.number - l.given
    let l := { l.forgetKey with queue := l.queue.insertIdx place .key, allowsKey := false }
    let l := if l.inFlow then l else l.openBlock key.column place .blockMappingStart
    .ok (l.emit .value 1)
  | none => do
    if !l.inFlow && !l.allowsKey then throw .misplacedValue
    let l := if l.inFlow then l else l.openBlock l.cursor.column l.queue.length .blockMappingStart
    return { l with allowsKey := !l.inFlow }.emit .value 1

/-- A token that can begin a key. -/
def readNode (l : Lexer) (read : Cursor → Except Fault (Token × Cursor)) : Except Fault Lexer := do
  let l ← l.noteKey
  let (t, c) ← read l.cursor
  return { l.push t with cursor := c, allowsKey := false }

/-- An alias. -/
def readAlias (l : Lexer) : Except Fault Lexer :=
  l.readNode fun c => do
    let (name, c) ← anchorName .alias c
    return (.alias name, c)

/-- An anchor. -/
def readAnchor (l : Lexer) : Except Fault Lexer :=
  l.readNode fun c => do
    let (name, c) ← anchorName .anchor c
    return (.anchor name, c)

/-- A quoted scalar. -/
def readQuoted (l : Lexer) : Except Fault Lexer :=
  l.readNode fun c => do
    let (cs, c) ← quotedScalar c
    return (.scalar (String.ofList cs) false, c)

/-- A block scalar; a key may follow it. -/
def readBlockScalar (l : Lexer) (folded : Bool) : Except Fault Lexer := do
  let l ← { l with allowsKey := true }.dropKey
  let (cs, c) ← blockScalar folded l.indent l.cursor
  return { l.push (.scalar (String.ofList cs) false) with cursor := c }

/-- A plain scalar; a key may follow it in the next line. -/
def readPlain (l : Lexer) : Except Fault Lexer := do
  let l ← l.noteKey
  let (cs, broken, c) := plainScalar l.inFlow (l.indent + 1) l.cursor
  return { l.push (.scalar (String.ofList cs) true) with cursor := c, allowsKey := broken }

/-- The characters that begin no plain scalar. -/
def indicators : List Char := "-?:,[]\x7b\x7d#&*!|>'\"%@\x60".toList

/-- Can a plain scalar begin here? -/
def beginsPlain (l : Lexer) : Bool :=
  let x := l.cursor.head
  (!isGap x && !indicators.contains x) ||
    (!isGap (l.cursor.peek 1) && (x == '-' || (!l.inFlow && (x == '?' || x == ':'))))

/-- The token that begins with a character. -/
def readToken (l : Lexer) : Except Fault Lexer :=
  let c := l.cursor
  let gap := isGap (c.peek 1)
  if c.atEnd then l.readEnd
  else if c.column == 0 && c.head == '%' then l.readDirective
  else if c.column == 0 && c.atMarks '-' then l.readDocumentMark .documentStart
  else if c.column == 0 && c.atMarks '.' then l.readDocumentMark .documentEnd
  else match c.head with
    | '[' => l.readOpening .flowSequenceStart
    | '{' => l.readOpening .flowMappingStart
    | ']' => l.readClosing .flowSequenceEnd
    | '}' => l.readClosing .flowMappingEnd
    | ',' => l.readFlowEntry
    | '*' => l.readAlias
    | '&' => l.readAnchor
    | '!' => l.readNode tag
    | '\'' => l.readQuoted
    | '"' => l.readQuoted
    | x =>
      if x == '-' && gap then l.readBlockEntry
      else if x == '?' && (l.inFlow || gap) then l.readKey
      else if x == ':' && (l.inFlow || gap) then l.readValue
      else if x == '|' && !l.inFlow then l.readBlockScalar false
      else if x == '>' && !l.inFlow then l.readBlockScalar true
      else if l.beginsPlain then l.readPlain
      else .error (.scanning .token)

/-- Reads the next token. -/
def fetch (l : Lexer) : Except Fault Lexer := do
  let l ← l.skipToToken.dropStale
  (l.unwind l.cursor.column).readToken

/-- The number of tokens at the head of the queue that are certain. -/
def certain (l : Lexer) : Nat :=
  if l.isDone then l.queue.length
  else l.keys.foldl (fun n k => min n (k.2.number - l.given)) l.queue.length

/-- The tokens from a state on, and the fault that ends them. The first argument bounds the length
of the text. -/
def run : Nat → Lexer → List Token × Option Fault
  | 0, _ => ([], none)
  | fuel + 1, l =>
    let next : Except Fault Lexer := do
      let l ← l.fetch
      if l.isDone then return l else l.dropStale
    match next with
    | .error f => ([], some f)
    | .ok l =>
      let n := l.certain
      let out := l.queue.take n
      if l.isDone then (out, none)
      else
        let (rest, fault) := run fuel { l with queue := l.queue.drop n, given := l.given + n }
        (out ++ rest, fault)

end Lexer

/-- The tokens of a text as far as they can be read, and the fault that ends them. -/
def Token.ofText (cs : List Char) : List Token × Option Fault :=
  Lexer.run (cs.length + 2) (.start cs)

end SpecForge.Yaml
