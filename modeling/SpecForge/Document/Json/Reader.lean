import SpecForge.Decimal.Numeral
import SpecForge.Document.Value
import SpecForge.Text.Digit

/-!
# Reading JSON

The reader goes from left to right on a list of characters and stops at the first fault, giving the
characters that were left there. Infinite numbers and the number that is none may be
written by name; a key that is repeated keeps its place and takes the last value.

An escape may name one half of a surrogate pair without the other. A text with such a half is no text
that a file could hold; it is kept as bytes, each half as the three bytes that its code point would
have.

A fault is a cause and the place where it is seen, counted in characters from the beginning. Line
and column are derived from the place, both from one.
-/

namespace SpecForge.Json

/-! ## Faults -/

/-- Why a text is no JSON. -/
inductive Cause where
  | byteOrderMark
  | value
  | key
  | colon
  | comma
  | extra
  | unterminated
  | control
  | escape
  | codePoint
  | digits
  | depth
deriving DecidableEq, Repr

/-- The wording of a cause. -/
def Cause.message : Cause → String
  | .byteOrderMark => "Unexpected UTF-8 BOM (decode using utf-8-sig)"
  | .value => "Expecting value"
  | .key => "Expecting property name enclosed in double quotes"
  | .colon => "Expecting ':' delimiter"
  | .comma => "Expecting ',' delimiter"
  | .extra => "Extra data"
  | .unterminated => "Unterminated string starting at"
  | .control => "Invalid control character at"
  | .escape => "Invalid \\escape"
  | .codePoint => "Invalid \\uXXXX escape"
  | .digits => "Too many digits"
  | .depth => "Too many levels"

/-- A cause and its place in the text. -/
structure Fault where
  cause : Cause
  line : Nat
  column : Nat
  index : Nat
deriving DecidableEq, Repr

/-- The fault of a text at a place. -/
def Fault.at (text : List Char) (cause : Cause) (index : Nat) : Fault :=
  let before := text.take index
  let lastLine := before.reverse.takeWhile (· != '\n')
  ⟨cause, (before.filter (· == '\n')).length + 1, lastLine.length + 1, index⟩

/-- The cause with its place. -/
def Fault.message (f : Fault) : String :=
  f.cause.message ++ ": line " ++ toString f.line ++ " column " ++ toString f.column ++
    " (char " ++ toString f.index ++ ")"

/-! ## The reader -/

open Decimal Text

/-- A cause with the characters that are left where it is seen. -/
abbrev Stop := Cause × List Char

/-- The blanks of JSON. -/
def isBlank (c : Char) : Bool := c == ' ' || c == '\t' || c == '\n' || c == '\r'

/-- The text without the blanks at its beginning. -/
def skip (cs : List Char) : List Char := cs.dropWhile isBlank

/-- The character for a letter after a backslash. -/
def simpleEscape? : Char → Option Char
  | '"' => some '"'
  | '\\' => some '\\'
  | '/' => some '/'
  | 'b' => some '\x08'
  | 'f' => some '\x0c'
  | 'n' => some '\n'
  | 'r' => some '\r'
  | 't' => some '\t'
  | _ => none

/-- The number of four hexadecimal digits with at least one character after them. -/
def hexFour? : List Char → Option (Nat × List Char)
  | a :: b :: c :: d :: e :: rest => do
    let ds ← [a, b, c, d].mapM hexValue?
    return (ofDigits 16 ds, e :: rest)
  | _ => none

/-- The second half of a pair, written as another escape. -/
def lowHalf? : List Char → Option (Nat × List Char)
  | '\\' :: 'u' :: rest => do
    let (n, rest) ← hexFour? rest
    if 0xdc00 ≤ n && n ≤ 0xdfff then some (n, rest) else none
  | _ => none

/-- What stands in a text: a character, or one half of a surrogate pair that stands alone. -/
inductive Sign where
  | char (c : Char)
  | half (code : Nat)
deriving DecidableEq, Repr

/-- What a code point stands for. -/
def Sign.ofCode (n : Nat) : Sign :=
  if 0xd800 ≤ n && n ≤ 0xdfff then .half n else .char (Char.ofNat n)

/-- The character, if it is one. -/
def Sign.char? : Sign → Option Char
  | .char c => some c
  | .half _ => none

/-- The bytes of a character, and those that a half would have by the same rule. -/
def Sign.bytes : Sign → List UInt8
  | .char c => String.utf8EncodeChar c
  | .half n => [0xed, UInt8.ofNat (0x80 + n / 64 % 64), UInt8.ofNat (0x80 + n % 64)]

/-- The value of a text, which is kept as bytes if there is a half in it. -/
def textOf (signs : List Sign) : Value :=
  match signs.mapM Sign.char? with
  | some cs => .str (String.ofList cs)
  | none => .bytes (signs.flatMap Sign.bytes)

/-- What stands up to the closing quote; `start` is the text at the opening quote. The first
number bounds the length of the text. -/
def string (start : List Char) : Nat → List Char → Except Stop (List Sign × List Char)
  | 0, _ => .error (.unterminated, start)
  | _, [] => .error (.unterminated, start)
  | fuel + 1, c :: cs =>
    if c == '"' then .ok ([], cs)
    else if c == '\\' then
      match cs with
      | [] => .error (.unterminated, start)
      | 'u' :: rest =>
        match hexFour? rest with
        | none => .error (.codePoint, cs)
        | some (n, rest') =>
          let (code, rest'') :=
            if 0xd800 ≤ n && n ≤ 0xdbff then
              match lowHalf? rest' with
              | some (m, after) => (0x10000 + (n - 0xd800) * 0x400 + (m - 0xdc00), after)
              | none => (n, rest')
            else (n, rest')
          do
            let (out, left) ← string start fuel rest''
            return (.ofCode code :: out, left)
      | e :: rest =>
        match simpleEscape? e with
        | none => .error (.escape, c :: cs)
        | some x => do
          let (out, left) ← string start fuel rest
          return (.char x :: out, left)
    else if c.toNat ≤ 0x1f then .error (.control, c :: cs)
    else do
      let (out, left) ← string start fuel cs
      return (.char c :: out, left)

/-- The whole part of a number: a zero, or digits that do not start with one. -/
def wholePart? : List Char → Option (List Nat × List Char)
  | '0' :: rest => some ([0], rest)
  | cs => match takeDigits asciiDigit? cs with
    | ([], _) => none
    | part => some part

/-- A number; it is a double if it has a fraction or an exponent, and otherwise must not have too
many digits. -/
def number? (cs : List Char) : Option (Except Stop (Value × List Char)) := do
  let (negative, body) := match cs with
    | '-' :: rest => (true, rest)
    | _ => (false, cs)
  let (whole, rest) ← wholePart? body
  let (fraction, rest) := match rest with
    | '.' :: tail => match takeDigits asciiDigit? tail with
      | ([], _) => ([], rest)
      | part => part
    | _ => ([], rest)
  let (exponent, rest') := takeExponent asciiDigit? rest
  let n : Numeral := ⟨negative, whole, fraction, exponent⟩
  if fraction.isEmpty && rest'.length == rest.length then
    return if digitLimit < whole.length then .error (.digits, cs) else .ok (.int n.toInt, rest')
  else return .ok (.float n.toFloat, rest')

/-- A word at the beginning, and what follows it. -/
def word? (w : String) (cs : List Char) : Option (List Char) :=
  if w.toList.isPrefixOf cs then some (cs.drop w.length) else none

/-- The words that are values. -/
def words : List (String × Value) :=
  [("null", .null), ("true", .bool true), ("false", .bool false), ("NaN", .float .nan),
    ("Infinity", .float (.infinite false)), ("-Infinity", .float (.infinite true))]

/-- A value that has no parts. -/
def atom? (cs : List Char) : Option (Except Stop (Value × List Char)) :=
  match words.findSome? fun w => (word? w.1 cs).map fun rest => (w.2, rest) with
  | some r => some (.ok r)
  | none => number? cs

/-- How deep lists and objects may lie in each other. -/
def depthLimit : Nat := 990

mutual

/-- A value at the beginning of the text. The first argument bounds the number of steps, of which
two are taken for a character at most; the second is how many levels there may be. -/
def value : Nat → Nat → List Char → Except Stop (Value × List Char)
  | 0, _, cs => .error (.value, cs)
  | fuel + 1, room, cs =>
    match cs with
    | '"' :: rest => do
      let (signs, left) ← string cs fuel rest
      return (textOf signs, left)
    | '[' :: rest =>
      if room = 0 then .error (.depth, cs)
      else match skip rest with
        | ']' :: left => .ok (.list [], left)
        | body => do
          let (items, left) ← items fuel (room - 1) body
          return (.list items, left)
    | '{' :: rest =>
      if room = 0 then .error (.depth, cs)
      else match skip rest with
        | '}' :: left => .ok (.object [], left)
        | body => do
          let (members, left) ← members fuel (room - 1) [] body
          return (.object members, left)
    | _ => (atom? cs).getD (.error (.value, cs))

/-- The items of a list up to the closing bracket. -/
def items : Nat → Nat → List Char → Except Stop (List Value × List Char)
  | 0, _, cs => .error (.value, cs)
  | fuel + 1, room, cs => do
    let (v, rest) ← value fuel room cs
    match skip rest with
    | ']' :: left => return ([v], left)
    | ',' :: tail =>
      let (vs, left) ← items fuel room (skip tail)
      return (v :: vs, left)
    | left => .error (.comma, left)

/-- The members of an object up to the closing brace, after those read so far. -/
def members : Nat → Nat → List (Value × Value) → List Char →
    Except Stop (List (Value × Value) × List Char)
  | 0, _, _, cs => .error (.key, cs)
  | fuel + 1, room, sofar, cs =>
    match cs with
    | '"' :: rest => do
      let (key, rest) ← string cs fuel rest
      match skip rest with
      | ':' :: tail =>
        let (v, rest) ← value fuel room (skip tail)
        let sofar := Value.insert (textOf key) v sofar
        match skip rest with
        | '}' :: left => return (sofar, left)
        | ',' :: tail => members fuel room sofar (skip tail)
        | left => .error (.comma, left)
      | left => .error (.colon, left)
    | _ => .error (.key, cs)

end

/-- The document that a text holds. -/
def read (s : String) : Except Fault Value :=
  let cs := s.toList
  let fault (cause : Cause) (left : List Char) : Fault :=
    Fault.at cs cause (cs.length - left.length)
  if cs.head? == some '\ufeff' then .error (fault .byteOrderMark cs)
  else match value (2 * cs.length + 2) depthLimit (skip cs) with
    | .error (cause, left) => .error (fault cause left)
    | .ok (v, rest) => match skip rest with
      | [] => .ok v
      | left => .error (fault .extra left)

end SpecForge.Json
