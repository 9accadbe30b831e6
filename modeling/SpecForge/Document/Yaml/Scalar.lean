import SpecForge.Document.Yaml.Cursor
import SpecForge.Document.Yaml.Fault
import SpecForge.Decimal.Numeral
import SpecForge.Text.Digit

/-!
# The texts of scalars

A scalar is written plainly, between quotes, or as an indented block. In each style line breaks are
folded: a single one becomes a space, further ones stay. Each reading starts at the first character
of the scalar and gives its text with the place behind it.
-/

namespace SpecForge.Yaml

open Cursor

/-- A space or a tab. -/
def isSpace (c : Char) : Bool := c == ' ' || c == '\t'

/-- A line break between two lines, folded with the breaks that follow it. -/
def foldBreak (first : Char) (more : List Char) : List Char :=
  if first != '\n' then first :: more else if more.isEmpty then [' '] else more

/-! ## Quoted scalars -/

/-- The characters that stand for others after a backslash. -/
def escapes : List (Char × Char) :=
  [('0', '\x00'), ('a', '\x07'), ('b', '\x08'), ('t', '\t'), ('\t', '\t'), ('n', '\n'),
    ('v', '\x0b'), ('f', '\x0c'), ('r', '\r'), ('e', '\x1b'), (' ', ' '), ('"', '"'),
    ('\\', '\\'), ('/', '/'), ('N', '\u0085'), ('_', '\u00a0'), ('L', '\u2028'), ('P', '\u2029')]

/-- The number of hexadecimal digits after the letter of a numeric escape. -/
def escapeWidth? : Char → Option Nat
  | 'x' => some 2
  | 'u' => some 4
  | 'U' => some 8
  | _ => none

/-- The character with a code point. One half of a surrogate pair is no character and is replaced.
-/
def codePoint (n : Nat) : Except Fault Char :=
  if 0x7fffffff < n then .error .hugeCodePoint
  else if 0x10ffff < n then .error .unreadNumber
  else .ok (if 0xd800 ≤ n && n ≤ 0xdfff then '\ufffd' else Char.ofNat n)

/-- The number of hexadecimal digits that begin at the cursor. -/
def hexNumber? (width : Nat) (c : Cursor) : Option (Nat × Cursor) :=
  let ds := (c.take width).filterMap Text.hexValue?
  if ds.length == width then some (Decimal.ofDigits 16 ds, c.forward width) else none

/-- The second half of a surrogate pair, written as another escape. -/
def lowHalf? (c : Cursor) : Option (Nat × Cursor) := do
  if c.head != '\\' then none
  let width ← escapeWidth? (c.peek 1)
  let (n, c) ← hexNumber? width (c.forward 2)
  if 0xdc00 ≤ n && n ≤ 0xdfff then some (n, c) else none

/-- The code point of a numeric escape and, if it is the first half of a surrogate pair, of the
escape after it. -/
def joinedHalves (n : Nat) (c : Cursor) : Nat × Cursor :=
  if 0xd800 ≤ n && n ≤ 0xdbff then
    match lowHalf? c with
    | some (m, c) => (0x10000 + (n - 0xd800) * 0x400 + (m - 0xdc00), c)
    | none => (n, c)
  else (n, c)

/-- The character of a numeric escape whose digits begin at the cursor. -/
def numericEscape (width : Nat) (c : Cursor) : Except Fault (Char × Cursor) := do
  match hexNumber? width c with
  | none => throw (.scanning .doubleQuotedScalar)
  | some (n, c) =>
    let (n, c) := joinedHalves n c
    return (← codePoint n, c)

/-- The line breaks inside a quoted scalar, the spaces around them left out. The first argument
bounds their number. -/
def quotedBreaks : Nat → Cursor → Except Fault (List Char × Cursor)
  | 0, c => .ok ([], c)
  | fuel + 1, c =>
    if c.atSeparator then .error (.scanning .quotedScalar)
    else
      let c := c.skipWhile isSpace
      match c.lineBreak? with
      | some (b, c) => do
        let (more, c) ← quotedBreaks fuel c
        return (b :: more, c)
      | none => .ok ([], c)

/-- What an escape stands for, the cursor being behind the backslash. -/
def escape (fuel : Nat) (c : Cursor) : Except Fault (List Char × Cursor) :=
  match escapes.lookup c.head with
  | some x => .ok ([x], c.next)
  | none => match escapeWidth? c.head with
    | some width => do
      let (x, c) ← numericEscape width c.next
      return ([x], c)
    | none => match c.lineBreak? with
      | some (_, c) => quotedBreaks fuel c
      | none => .error (.scanning .doubleQuotedScalar)

/-- A quoted scalar up to its closing quote. The first argument bounds the length of the text. -/
def quotedRest (quote : Char) : Nat → Cursor → Except Fault (List Char × Cursor)
  | 0, _ => .error (.scanning .quotedScalar)
  | fuel + 1, c => do
    let x := c.head
    if isSpace x || endsLine x then
      let (spaces, c) := c.takeWhile isSpace
      let (cs, c) ← match c.lineBreak? with
        | some (b, c) => do
          let (more, c) ← quotedBreaks fuel c
          pure (foldBreak b more, c)
        | none => if c.atEnd then .error (.scanning .quotedScalar) else pure (spaces, c)
      let (rest, c) ← quotedRest quote fuel c
      return (cs ++ rest, c)
    else if x == quote then
      if quote == '\'' && c.peek 1 == quote then
        let (rest, c) ← quotedRest quote fuel (c.forward 2)
        return (quote :: rest, c)
      else return ([], c.next)
    else if quote == '"' && x == '\\' then
      let (cs, c) ← escape fuel c.next
      let (rest, c) ← quotedRest quote fuel c
      return (cs ++ rest, c)
    else
      let (rest, c) ← quotedRest quote fuel c.next
      return (x :: rest, c)

/-- A quoted scalar. -/
def quotedScalar (c : Cursor) : Except Fault (List Char × Cursor) :=
  quotedRest c.head (c.left + 1) c.next

/-! ## Plain scalars -/

/-- A mark that ends a plain scalar inside brackets. -/
def isFlowMark (c : Char) : Bool := [',', '?', '[', ']', '\x7b', '\x7d'].contains c

/-- Does a colon before this character end a plain scalar? -/
def endsKey (inFlow : Bool) (c : Char) : Bool :=
  isGap c || (inFlow && [',', '[', ']', '\x7b', '\x7d'].contains c)

/-- The characters of a plain scalar up to a space. -/
def plainWord (inFlow : Bool) : List Char → List Char
  | [] => []
  | x :: rest =>
    if isGap x || (x == ':' && endsKey inFlow (rest.headD endMark)) ||
        (inFlow && isFlowMark x) then []
    else x :: plainWord inFlow rest

/-- The line breaks inside a plain scalar and the spaces between them; none at the end of the
document. The first argument bounds the length of the text. -/
def plainBreaks : Nat → Cursor → Option (List Char) × Cursor
  | 0, c => (some [], c)
  | fuel + 1, c =>
    if c.head == ' ' then plainBreaks fuel c.next
    else match c.lineBreak? with
      | some (b, c) =>
        if c.atSeparator then (none, c)
        else
          let (more, c) := plainBreaks fuel c
          (more.map (b :: ·), c)
      | none => (some [], c)

/-- The spaces after a word of a plain scalar, folded, and whether there is a line break among them.
Nothing is given where the scalar ends. -/
def plainSpaces (c : Cursor) : List Char × Bool × Cursor :=
  let (spaces, c) := c.takeWhile (· == ' ')
  match c.lineBreak? with
  | none => (spaces, false, c)
  | some (b, c) =>
    if c.atSeparator then ([], true, c)
    else match plainBreaks (c.left + 1) c with
      | (some more, c) => (foldBreak b more, true, c)
      | (none, c) => ([], true, c)

/-- A plain scalar from a word on, after the given spaces: its text, whether it is followed by a
line break, and the place behind it. Outside brackets it ends where a line is indented less than
`indent`. The first argument bounds the length of the text. -/
def plainFrom (inFlow : Bool) (indent : Int) : Nat → Bool → List Char → Cursor →
    List Char × Bool × Cursor
  | 0, broken, _, c => ([], broken, c)
  | fuel + 1, broken, spaces, c =>
    let word := if c.head == '#' then [] else plainWord inFlow c.rest
    if word.isEmpty then ([], broken, c)
    else
      let (after, broken, c) := plainSpaces (c.forward word.length)
      if after.isEmpty || c.head == '#' || (!inFlow && c.column < indent) then
        (spaces ++ word, broken, c)
      else
        let (rest, broken, c) := plainFrom inFlow indent fuel broken after c
        (spaces ++ word ++ rest, broken, c)

/-- A plain scalar. -/
def plainScalar (inFlow : Bool) (indent : Int) (c : Cursor) : List Char × Bool × Cursor :=
  plainFrom inFlow indent (c.left + 1) false [] c

/-! ## Block scalars -/

/-- What happens to the line breaks at the end of a block. -/
inductive Chomping where
  | clip
  | strip
  | keep
deriving DecidableEq

/-- The sign for what happens at the end of a block. -/
def chomping? : Char → Option Chomping
  | '+' => some .keep
  | '-' => some .strip
  | _ => none

/-- The sign, if there is one. -/
def takeChomping (c : Cursor) : Option Chomping × Cursor :=
  match chomping? c.head with
  | some m => (some m, c.next)
  | none => (none, c)

/-- The digit that gives the indentation, if there is one. Zero is none. -/
def takeIncrement (c : Cursor) : Except Fault (Option Nat × Cursor) :=
  match Text.asciiDigit? c.head with
  | some 0 => .error (.scanning .blockScalar)
  | some n => .ok (some n, c.next)
  | none => .ok (none, c)

/-- The sign and the digit after the mark of a block, in either order. -/
def blockHeader (c : Cursor) : Except Fault (Chomping × Option Nat × Cursor) := do
  let (first, c) := takeChomping c
  let (increment, c) ← takeIncrement c
  let (second, c) := match first, increment with
    | none, some _ => takeChomping c
    | _, _ => (none, c)
  if !endsWord c.head then throw (.scanning .blockScalar)
  let c := c.skipSpaces.skipComment
  if !endsLine c.head then throw (.scanning .blockScalar)
  return ((first.orElse fun _ => second).getD .clip, increment, c.skipBreak)

/-- The empty lines before a block whose indentation is not given, and the widest of their
indentations. The first argument bounds the length of the text. -/
def blockIndentation : Nat → Nat → Cursor → List Char × Nat × Cursor
  | 0, widest, c => ([], widest, c)
  | fuel + 1, widest, c =>
    match c.lineBreak? with
    | some (b, c) =>
      let (more, widest, c) := blockIndentation fuel widest c
      (b :: more, widest, c)
    | none =>
      if c.head == ' ' then blockIndentation fuel (max widest (c.column + 1)) c.next
      else ([], widest, c)

/-- The empty lines inside a block. The first argument bounds the length of the text. -/
def blockBreaks (indent : Nat) : Nat → Cursor → List Char × Cursor
  | 0, c => ([], c)
  | fuel + 1, c =>
    let c := c.skipSpacesTo indent
    match c.lineBreak? with
    | some (b, c) =>
      let (more, c) := blockBreaks indent fuel c
      (b :: more, c)
    | none => ([], c)

/-- The lines of a block after some empty ones: the text, the last line break, the empty lines at
the end, and the place behind them. The first argument bounds the length of the text. -/
def blockLines (folded : Bool) (indent : Nat) : Nat → List Char → Cursor →
    List Char × List Char × List Char × Cursor
  | 0, breaks, c => ([], [], breaks, c)
  | fuel + 1, breaks, c =>
    if c.column != indent || c.atEnd then ([], [], breaks, c)
    else
      let isIndented := isSpace c.head
      let (line, c) := c.takeWhile fun x => !endsLine x
      let (lineBreak, c) := match c.lineBreak? with
        | some (b, c) => ([b], c)
        | none => ([], c)
      let (more, c) := blockBreaks indent (c.left + 1) c
      if c.column == indent && !c.atEnd then
        let joint :=
          if folded && lineBreak == ['\n'] && !isIndented && !isSpace c.head then
            if more.isEmpty then [' '] else []
          else lineBreak
        let (rest, last, ending, c) := blockLines folded indent fuel more c
        (breaks ++ line ++ joint ++ rest, last, ending, c)
      else (breaks ++ line, lineBreak, more, c)

/-- A block scalar inside something of the given indentation. -/
def blockScalar (folded : Bool) (outer : Int) (c : Cursor) : Except Fault (List Char × Cursor) := do
  let (chomping, increment, c) ← blockHeader c.next
  let least := max 1 (outer + 1).toNat
  let fuel := c.left + 1
  let (breaks, indent, c) := match increment with
    | some n =>
      let indent := least + n - 1
      let (breaks, c) := blockBreaks indent fuel c
      (breaks, indent, c)
    | none =>
      let (breaks, widest, c) := blockIndentation fuel 0 c
      (breaks, max least widest, c)
  let (text, last, ending, c) := blockLines folded indent fuel breaks c
  return (match chomping with
    | .clip => text ++ last
    | .strip => text
    | .keep => text ++ last ++ ending, c)

end SpecForge.Yaml
