import SpecForge.Decimal.Written
import SpecForge.Text.CharacterName

/-!
# Literals in tags

A tag may carry parameters that are a literal: a number, a text, a constant, or several literals as
a row, a set or a table. This module says which texts are literals. What a literal stands for is not
needed; all that is kept of it is whether a sign may stand before it, and whether it may be a member
of a set or a key of a table.
-/

namespace SpecForge.Command.Markup.Literal

open Text

/-- What is kept of a literal. -/
inductive Kind where
  /-- A number without sign, which may be imaginary. -/
  | number (isImaginary : Bool)
  /-- A number with a sign. -/
  | signed (isImaginary : Bool)
  /-- Anything else that may be a member of a set. -/
  | fixed
  /-- A set or a table, or a row that holds one. -/
  | loose
deriving DecidableEq

/-- The smallest parts of a literal. -/
inductive Token where
  | number (isImaginary : Bool)
  | text (isBytes : Bool)
  | word (s : String)
  | dots
  | mark (c : Char)
deriving DecidableEq

/-- May a character stand in a name? Every character beyond ASCII counts, so that none of them can
follow a number. -/
def isNameChar (c : Char) : Bool :=
  isAsciiLetter c || isAsciiDigit c || c == '_' || 128 ≤ c.toNat

/-! ## Numbers -/

/-- The digits at the beginning, single underscores between them or before them aside, and the
rest. -/
def takeRow (isDigit : Char → Bool) : List Char → List Char × List Char
  | '_' :: d :: cs =>
    if isDigit d then let (ds, rest) := takeRow isDigit cs; (d :: ds, rest)
    else ([], '_' :: d :: cs)
  | c :: cs =>
    if isDigit c then let (ds, rest) := takeRow isDigit cs; (c :: ds, rest) else ([], c :: cs)
  | [] => ([], [])

/-- The decimal digits at the beginning, which must not begin with an underscore. -/
def takeDecimal (cs : List Char) : List Char × List Char :=
  if (cs.head?.map isAsciiDigit).getD false then takeRow isAsciiDigit cs else ([], cs)

/-- The digits of the base that a letter after a zero names. -/
def baseDigits? (c : Char) : Option (Char → Bool) :=
  if c == 'x' || c == 'X' then some isHex
  else if c == 'o' || c == 'O' then some fun d => '0' ≤ d && d ≤ '7'
  else if c == 'b' || c == 'B' then some fun d => d == '0' || d == '1'
  else none

/-- The rest behind an exponent, if there is one. -/
def exponentRest? : List Char → Option (List Char)
  | e :: cs =>
    if e == 'e' || e == 'E' then
      let unsigned := match cs with
        | '+' :: rest => rest
        | '-' :: rest => rest
        | rest => rest
      match takeDecimal unsigned with
      | ([], _) => none
      | (_, rest) => some rest
    else none
  | [] => none

/-- May the digits write a whole number? They must not begin with a zero, unless they write zero,
and there must not be too many of them. -/
def isWholeRow (ds : List Char) : Bool :=
  ds.all (· == '0') || (ds.head? != some '0' && ds.length ≤ Decimal.digitLimit)

/-- Is a decimal number imaginary, and what follows it? -/
def decimal? (cs : List Char) : Option (Bool × List Char) :=
  let (whole, rest) := takeDecimal cs
  let (fraction, rest, hasPoint) := match rest with
    | '.' :: tail => let (ds, rest) := takeDecimal tail; (ds, rest, true)
    | rest => ([], rest, false)
  if whole.isEmpty && fraction.isEmpty then none
  else
    let (rest, isWhole) := match exponentRest? rest with
      | some rest => (rest, false)
      | none => (rest, !hasPoint)
    match rest with
    | c :: tail =>
      if c == 'j' || c == 'J' then some (true, tail)
      else if isWhole && !isWholeRow whole then none
      else some (false, rest)
    | [] => if isWhole && !isWholeRow whole then none else some (false, [])

/-- Is a number imaginary, and what follows it? -/
def number? (cs : List Char) : Option (Bool × List Char) :=
  match cs with
  | '0' :: c :: tail => match baseDigits? c with
    | some isDigit => match takeRow isDigit tail with
      | ([], _) => none
      | (_, rest) => some (false, rest)
    | none => decimal? cs
  | cs => decimal? cs

/-! ## Texts -/

/-- How a text is written: whether backslashes stand for themselves, whether it is one of bytes, its
quote and whether the quote is written three times. -/
structure Writing where
  isRaw : Bool
  isBytes : Bool
  quote : Char
  isTriple : Bool

/-- The way of writing that letters before a quote ask for. -/
def Writing.ofLetters? (letters : List Char) (quote : Char) (isTriple : Bool) : Option Writing :=
  let lowered := String.ofList (letters.map Char.toLower)
  if lowered == "" || lowered == "u" then some ⟨false, false, quote, isTriple⟩
  else if lowered == "r" then some ⟨true, false, quote, isTriple⟩
  else if lowered == "b" then some ⟨false, true, quote, isTriple⟩
  else if lowered == "br" || lowered == "rb" then some ⟨true, true, quote, isTriple⟩
  else none

/-- The rest behind some hexadecimal digits that do not write more than a limit. -/
def hexRest? (count limit : Nat) (cs : List Char) : Option (List Char) := do
  let ds ← (cs.take count).mapM hexValue?
  if ds.length == count && ds.foldl (fun n d => 16 * n + d) 0 ≤ limit then some (cs.drop count)
  else none

/-- The rest behind a backslash and what belongs to it, given what follows the backslash. -/
def escapeRest? (w : Writing) : List Char → Option (List Char)
  | [] => none
  | c :: cs =>
    if w.isRaw then some cs
    else if c == 'x' then hexRest? 2 255 cs
    else if w.isBytes then some cs
    else if c == 'u' then hexRest? 4 0xffff cs
    else if c == 'U' then hexRest? 8 0x10ffff cs
    else if c == 'N' then
      match cs.head? == some '\x7b', cs.dropWhile (· != '\x7d') with
      | true, _ :: rest =>
        if isCharacterName ((cs.drop 1).takeWhile (· != '\x7d')) then some rest else none
      | _, _ => none
    else some cs

/-- The rest behind the closing quote. The first number bounds the length of the text. -/
def textRest? (w : Writing) : Nat → List Char → Option (List Char)
  | 0, _ => none
  | _, [] => none
  | fuel + 1, c :: cs =>
    if w.isBytes && 128 ≤ c.toNat then none
    else if c == '\\' then (escapeRest? w cs).bind (textRest? w fuel)
    else if w.isTriple && (c :: cs).take 3 == [w.quote, w.quote, w.quote] then some (cs.drop 2)
    else if !w.isTriple && c == w.quote then some cs
    else if !w.isTriple && c == '\n' then none
    else textRest? w fuel cs

/-- Is a text behind some letters one of bytes, and what follows it? -/
def text? (letters : List Char) : List Char → Option (Bool × List Char)
  | q :: cs => do
    let isTriple := cs.take 2 == [q, q]
    let w ← Writing.ofLetters? letters q isTriple
    let body := if isTriple then cs.drop 2 else cs
    return (w.isBytes, ← textRest? w (body.length + 1) body)
  | [] => none

/-! ## Tokens -/

/-- Quotes that open a text. -/
def isQuote (c : Char) : Bool := c == '"' || c == '\''

/-- Characters that stand for themselves. -/
def isMark (c : Char) : Bool := ['(', ')', '\x7b', '\x7d', ',', ':', '+', '-'].contains c

/-- What follows the blanks at the beginning of a line, and whether the line is indented by them. A
form feed takes back the blanks before it. A line may be continued on the next one, and then the
blanks before the first continuation count, or those behind it if there are none. The arguments are
what is known so far: whether there are blanks, and whether there were some before a continuation.
-/
def lineStart? (isIndented wasIndented : Bool) : List Char → Option (Bool × List Char)
  | '\\' :: '\n' :: c :: cs => lineStart? isIndented (wasIndented || isIndented) (c :: cs)
  | '\\' :: _ => none
  | c :: cs =>
    if c == ' ' || c == '\t' then lineStart? true wasIndented cs
    else if c == '\x0c' then lineStart? false wasIndented cs
    else some (wasIndented || isIndented, c :: cs)
  | [] => some (wasIndented || isIndented, [])

/-- The text behind the lines that hold nothing or a comment, and whether the next line is indented.
-/
def firstLine? : Nat → List Char → Option (Bool × List Char)
  | 0, _ => none
  | fuel + 1, cs => do
    let (isIndented, rest) ← lineStart? false false cs
    match rest with
    | '#' :: _ => firstLine? fuel ((rest.dropWhile (· != '\n')).drop 1)
    | '\n' :: rest => firstLine? fuel rest
    | _ => some (isIndented, rest)

/-- Is there nothing left but lines that hold nothing or a comment? -/
def isOver (cs : List Char) : Bool :=
  match firstLine? (cs.length + 1) cs with
  | some (_, []) => true
  | _ => false

/-- How many brackets may be open. -/
def depthLimit : Nat := 200

/-- How many brackets are open behind a mark. -/
def depthBehind (depth : Nat) (c : Char) : Nat :=
  if c == '(' || c == '\x7b' then depth + 1
  else if c == ')' || c == '\x7d' then depth - 1
  else depth

/-- The characters that are equal to a letter of the name of sets but for the way in which they are
set. -/
def letterVariants : List (Char × List Nat) :=
  [('s', [0x17f, 0x2e2, 0x209b, 0xff53, 0x1d42c, 0x1d460, 0x1d494, 0x1d4c8, 0x1d4fc, 0x1d530,
      0x1d564, 0x1d598, 0x1d5cc, 0x1d600, 0x1d634, 0x1d668, 0x1d69c]),
    ('e', [0x1d49, 0x2091, 0x212f, 0x2147, 0xff45, 0x1d41e, 0x1d452, 0x1d486, 0x1d4ee, 0x1d522,
      0x1d556, 0x1d58a, 0x1d5be, 0x1d5f2, 0x1d626, 0x1d65a, 0x1d68e]),
    ('t', [0x1d57, 0x209c, 0xff54, 0x1d42d, 0x1d461, 0x1d495, 0x1d4c9, 0x1d4fd, 0x1d531, 0x1d565,
      0x1d599, 0x1d5cd, 0x1d601, 0x1d635, 0x1d669, 0x1d69d])]

/-- A character as the letter it is equal to; any other stays. -/
def plainLetter (c : Char) : Char :=
  ((letterVariants.find? fun v => v.2.contains c.toNat).map Prod.fst).getD c

/-- Is it the name of sets? -/
def isSetName (w : String) : Bool := w.toList.map plainLetter == "set".toList

/-- The tokens of a text, a given number of brackets being open. Outside of brackets a line break
ends the literal. The first number bounds the number of steps. -/
def tokens? : Nat → Nat → List Char → Option (List Token)
  | 0, _, _ => none
  | _, _, [] => some []
  | fuel + 1, depth, c :: cs =>
    if c == ' ' || c == '\t' || c == '\x0c' then tokens? fuel depth cs
    else if c == '#' then tokens? fuel depth (cs.dropWhile (· != '\n'))
    else if c == '\n' then
      if depth == 0 then (if isOver cs then some [] else none)
      else tokens? fuel depth cs
    else if c == '\\' then match cs with
      | '\n' :: rest => if rest.isEmpty then none else tokens? fuel depth rest
      | _ => none
    else if isAsciiDigit c || (c == '.' && (cs.head?.map isAsciiDigit).getD false) then do
      let (isImaginary, rest) ← number? (c :: cs)
      if (rest.head?.map isNameChar).getD false then none
      else return .number isImaginary :: (← tokens? fuel depth rest)
    else if c == '.' then match cs with
      | '.' :: '.' :: rest => (tokens? fuel depth rest).map (.dots :: ·)
      | _ => none
    else if isMark c then
      if depthLimit < depthBehind depth c then none
      else (tokens? fuel (depthBehind depth c) cs).map (.mark c :: ·)
    else
      let letters := (c :: cs).takeWhile isNameChar
      let rest := (c :: cs).dropWhile isNameChar
      if (rest.head?.map isQuote).getD false then do
        let (isBytes, rest) ← text? letters rest
        return .text isBytes :: (← tokens? fuel depth rest)
      else if letters.isEmpty then none
      else (tokens? fuel depth rest).map (.word (String.ofList letters) :: ·)

/-! ## Literals -/

/-- The sum of two literals: a real number and an imaginary one, the second without sign. -/
def Kind.plus? : Kind → Kind → Option Kind
  | .number false, .number true => some .fixed
  | .signed false, .number true => some .fixed
  | _, _ => none

/-- The literal with a sign before it, which must be a number without sign. -/
def Kind.withSign? : Kind → Option Kind
  | .number isImaginary => some (.signed isImaginary)
  | _ => none

/-- A row of literals. -/
def Kind.row (kinds : List Kind) : Kind := if kinds.contains .loose then .loose else .fixed

/-- A set, or a table with some keys: its members or keys must not be loose. -/
def Kind.collection? (kinds : List Kind) : Option Kind :=
  if kinds.contains .loose then none else some .loose

mutual

/-- A literal at the beginning of the tokens. The first argument bounds the number of steps. -/
def literal? : Nat → List Token → Option (Kind × List Token)
  | 0, _ => none
  | fuel + 1, ts => do
    let (k, rest) ← signed? fuel ts
    sum? fuel k rest

/-- What becomes of a literal with the sums behind it. -/
def sum? : Nat → Kind → List Token → Option (Kind × List Token)
  | 0, _, _ => none
  | fuel + 1, k, .mark c :: rest =>
    if c == '+' || c == '-' then do
      let (l, rest) ← signed? fuel rest
      sum? fuel (← k.plus? l) rest
    else some (k, .mark c :: rest)
  | _, k, ts => some (k, ts)

/-- A literal with or without signs before it. -/
def signed? : Nat → List Token → Option (Kind × List Token)
  | 0, _ => none
  | fuel + 1, .mark c :: rest =>
    if c == '+' || c == '-' then do
      let (k, rest) ← signed? fuel rest
      return (← k.withSign?, rest)
    else if c == '(' then do
      let (kinds, isRow, rest) ← items? fuel rest
      match kinds, isRow with
      | [k], false => return (k, rest)
      | kinds, _ => return (Kind.row kinds, rest)
    else if c == '\x7b' then members? fuel rest
    else none
  | _, .number isImaginary :: rest => some (.number isImaginary, rest)
  | _, .text isBytes :: rest =>
    let behind := rest.dropWhile (· == .text isBytes)
    if behind.head? == some (.text !isBytes) then none else some (.fixed, behind)
  | _, .dots :: rest => some (.fixed, rest)
  | _, .word w :: rest =>
    if isSetName w then match rest with
      | .mark '(' :: .mark ')' :: rest => some (.loose, rest)
      | _ => none
    else if w == "None" || w == "True" || w == "False" then some (.fixed, rest)
    else none
  | _, [] => none

/-- The literals up to a closing bracket, and whether a comma makes a row of them. -/
def items? : Nat → List Token → Option (List Kind × Bool × List Token)
  | 0, _ => none
  | _, .mark ')' :: rest => some ([], true, rest)
  | fuel + 1, ts => do
    let (k, rest) ← literal? fuel ts
    match rest with
    | .mark ')' :: rest => return ([k], false, rest)
    | .mark ',' :: rest =>
      let (kinds, _, rest) ← items? fuel rest
      return (k :: kinds, true, rest)
    | _ => none

/-- A set or a table up to its closing brace; the first member or key tells which of them. -/
def members? : Nat → List Token → Option (Kind × List Token)
  | 0, _ => none
  | _, .mark '\x7d' :: rest => some (.loose, rest)
  | fuel + 1, ts => do
    let (k, rest) ← literal? fuel ts
    let (kinds, rest) ← keysBehind? fuel (rest.head? == some (.mark ':')) rest
    return (← Kind.collection? (k :: kinds), rest)

/-- The members of a set or the keys of a table, up to the closing brace, behind one of them. -/
def keysBehind? : Nat → Bool → List Token → Option (List Kind × List Token)
  | 0, _, _ => none
  | fuel + 1, isTable, ts => do
    let rest ← match isTable, ts with
      | true, .mark ':' :: rest => (literal? fuel rest).map (·.2)
      | true, _ => none
      | false, rest => some rest
    match rest with
    | .mark '\x7d' :: rest => return ([], rest)
    | .mark ',' :: .mark '\x7d' :: rest => return ([], rest)
    | .mark ',' :: rest =>
      let (k, rest) ← literal? fuel rest
      let (kinds, rest) ← keysBehind? fuel isTable rest
      return (k :: kinds, rest)
    | _ => none

end

/-- Is the text a literal, or several of them with commas between? The first line that holds
something must not be indented. -/
def isLiteral (cs : List Char) : Bool :=
  let cs := unifyBreaks cs
  if cs.contains '\x00' then false
  else match firstLine? (cs.length + 1) cs with
    | some (false, rest) => match tokens? (cs.length + 1) 0 rest with
      | some (t :: ts) =>
        match signed? (8 * cs.length + 8) (.mark '(' :: t :: ts ++ [.mark ')']) with
        | some (_, []) => true
        | _ => false
      | _ => false
    | _ => false

end SpecForge.Command.Markup.Literal
