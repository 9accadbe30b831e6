/-!
# Places in a YAML text

A cursor is the rest of a text together with its place: the number of characters before it, the line
and the column. Behind the end of the text stands a mark that no text may hold, so that a character
can be asked for anywhere.
-/

namespace SpecForge.Yaml

/-- The mark behind the end of a text. -/
def endMark : Char := '\x00'

/-- A line break. -/
def isBreak (c : Char) : Bool := c == '\n' || c == '\u0085' || c == '\u2028' || c == '\u2029'

/-- The end of a line or of the text. -/
def endsLine (c : Char) : Bool := isBreak c || c == endMark

/-- What may follow a word: a space or the end of a line. -/
def endsWord (c : Char) : Bool := c == ' ' || endsLine c

/-- What may follow an indicator: a space, a tab or the end of a line. -/
def isGap (c : Char) : Bool := c == '\t' || endsWord c

/-- A place in a text: the rest of the text and its length, the number of characters before it, the
line and the column. -/
structure Cursor where
  rest : List Char
  left : Nat
  index : Nat
  line : Nat
  column : Nat

namespace Cursor

/-- The beginning of a text. -/
def start (cs : List Char) : Cursor := ⟨cs, cs.length, 0, 0, 0⟩

/-- The character some places ahead. -/
def peek (c : Cursor) (n : Nat) : Char := c.rest.getD n endMark

/-- The character at the cursor. -/
def head (c : Cursor) : Char := c.peek 0

/-- Is the end of the text reached? -/
def atEnd (c : Cursor) : Bool := c.rest.isEmpty

/-- The place after a character. A byte order mark takes no column. -/
def pass (c : Cursor) (x : Char) (rest : List Char) : Cursor :=
  if isBreak x then ⟨rest, c.left - 1, c.index + 1, c.line + 1, 0⟩
  else if x == '\ufeff' then ⟨rest, c.left - 1, c.index + 1, c.line, c.column⟩
  else ⟨rest, c.left - 1, c.index + 1, c.line, c.column + 1⟩

/-- The next place; the end stays where it is. -/
def next (c : Cursor) : Cursor :=
  match c.rest with
  | [] => c
  | x :: rest => c.pass x rest

/-- The place some characters ahead. -/
def forward : Nat → Cursor → Cursor
  | 0, c => c
  | n + 1, c => forward n c.next

/-- The next characters. -/
def take (c : Cursor) (n : Nat) : List Char := c.rest.take n

/-- The characters of a class that come next, and the place after them. -/
def takeWhile (p : Char → Bool) (c : Cursor) : List Char × Cursor :=
  let cs := c.rest.takeWhile p
  (cs, c.forward cs.length)

/-- The place after the characters of a class. -/
def skipWhile (p : Char → Bool) (c : Cursor) : Cursor := (c.takeWhile p).2

/-- The place after the spaces. -/
def skipSpaces (c : Cursor) : Cursor := c.skipWhile (· == ' ')

/-- The place after the spaces, as far as they do not go beyond a column. -/
def skipSpacesTo (column : Nat) (c : Cursor) : Cursor :=
  c.forward ((c.rest.take (column - c.column)).takeWhile (· == ' ')).length

/-- The place at the end of the line. -/
def skipLine (c : Cursor) : Cursor := c.skipWhile fun x => !isBreak x

/-- The place after a comment, if one begins here. -/
def skipComment (c : Cursor) : Cursor := if c.head == '#' then c.skipLine else c

/-- A line break as the content of a scalar. -/
def breakText (x : Char) : Char := if x == '\u2028' || x == '\u2029' then x else '\n'

/-- The line break at the cursor, and the place after it. -/
def lineBreak? (c : Cursor) : Option (Char × Cursor) :=
  if isBreak c.head then some (breakText c.head, c.next) else none

/-- The place after a line break, if one is here. -/
def skipBreak (c : Cursor) : Cursor := if isBreak c.head then c.next else c

/-- Do three marks and a gap stand here? -/
def atMarks (mark : Char) (c : Cursor) : Bool :=
  c.take 3 == [mark, mark, mark] && isGap (c.peek 3)

/-- Does something stand here that separates documents? -/
def atSeparator (c : Cursor) : Bool := c.atMarks '-' || c.atMarks '.'

end Cursor

end SpecForge.Yaml
