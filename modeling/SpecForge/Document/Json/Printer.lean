import SpecForge.Document.Display

/-!
# Writing JSON

Two layouts of the same text: on one line without blanks, and with two blanks more per level.
Characters outside ASCII are written as they are. Keys and values without a JSON spelling of their
own are written by their text.

What is written can be put into a file if it has characters only. A text that was read with one half
of a surrogate pair has not; it is kept as bytes.
-/

namespace SpecForge.Json

/-- One character between double quotes. -/
def writtenChar (c : Char) : String :=
  if c == '"' then "\\\""
  else if c == '\\' then "\\\\"
  else if c == '\n' then "\\n"
  else if c == '\r' then "\\r"
  else if c == '\t' then "\\t"
  else if c == '\x08' then "\\b"
  else if c == '\x0c' then "\\f"
  else if c.toNat < 0x20 then "\\u" ++ Text.hexFilled 4 c.toNat
  else String.singleton c

/-- A text between double quotes. -/
def quoted (s : String) : String := "\"" ++ String.join (s.toList.map writtenChar) ++ "\""

/-- A double, the infinite ones by name. -/
def writtenFloat (x : Decimal.Binary64) : String :=
  match x with
  | .nan => "NaN"
  | .infinite negative => if negative then "-Infinity" else "Infinity"
  | x => x.text

/-- A line break and two blanks for every level, or nothing on one line. -/
def lineBreak (level : Option Nat) : String :=
  match level with
  | some n => "\n" ++ String.ofList (List.replicate (2 * n) ' ')
  | none => ""

mutual

/-- A value at the given level, or on one line if there is none. -/
def write (level : Option Nat) : Value → String
  | .null => "null"
  | .bool b => if b then "true" else "false"
  | .int n => toString n
  | .float x => writtenFloat x
  | .str s => quoted s
  | .list [] => "[]"
  | .list (v :: vs) =>
    let inner := level.map (· + 1)
    "[" ++ lineBreak inner ++ write inner v ++ writeItems inner vs ++ lineBreak level ++ "]"
  | .object [] => "\x7b\x7d"
  | .object ((k, v) :: ms) =>
    let inner := level.map (· + 1)
    "\x7b" ++ lineBreak inner ++ quoted k.text ++ (if level.isSome then ": " else ":") ++
      write inner v ++ writeMembers inner ms ++ lineBreak level ++ "\x7d"
  | .date d => quoted d.text
  | .moment m => quoted (m.textWith " ")
  | .set _ => "[]"
  | .bytes data => quoted (Value.shownBytes data)
  | .pair a b =>
    let inner := level.map (· + 1)
    "[" ++ lineBreak inner ++ write inner a ++ "," ++ lineBreak inner ++ write inner b ++
      lineBreak level ++ "]"
  | .loop _ v => write level v
  | .dots => quoted "..."

/-- The items after the first one. -/
def writeItems (level : Option Nat) : List Value → String
  | [] => ""
  | v :: vs => "," ++ lineBreak level ++ write level v ++ writeItems level vs

/-- The members after the first one. -/
def writeMembers (level : Option Nat) : List (Value × Value) → String
  | [] => ""
  | (k, v) :: ms =>
    "," ++ lineBreak level ++ quoted k.text ++ (if level.isSome then ": " else ":") ++
      write level v ++ writeMembers level ms

end

mutual

/-- Does the value hold texts of characters only? -/
def isEncodable : Value → Bool
  | .bytes _ => false
  | .list vs => areEncodable vs
  | .set vs => areEncodable vs
  | .object ms => haveEncodable ms
  | .pair a b => isEncodable a && isEncodable b
  | .loop _ v => isEncodable v
  | .null | .bool _ | .int _ | .float _ | .str _ | .date _ | .moment _ | .dots => true

/-- Do all values hold texts of characters only? -/
def areEncodable : List Value → Bool
  | [] => true
  | v :: vs => isEncodable v && areEncodable vs

/-- Do all keys and values hold texts of characters only? -/
def haveEncodable : List (Value × Value) → Bool
  | [] => true
  | (k, v) :: ms => isEncodable k && isEncodable v && haveEncodable ms

end

/-- The text on one line. -/
def compact (v : Value) : String := write none v

/-- The text with one member or item per line. -/
def indented (v : Value) : String := write (some 0) v

end SpecForge.Json
