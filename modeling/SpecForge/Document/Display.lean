import SpecForge.Document.Value
import SpecForge.Text.Printable

/-!
# The text of a value

How a value is spelled inside another text. A text by itself is spelled as it is; inside a list or
an object it stands between quotes, with escapes for what cannot be shown. A list or an object that
stands inside itself is spelled with dots there. A value is not spelled at all if a whole number in
it has too many digits.
-/

namespace SpecForge

namespace Text

/-- The digits of a number in base sixteen, with zeros in front up to a width. -/
def hexFilled (width n : Nat) : String :=
  let ds := Nat.toDigits 16 n
  String.ofList (List.replicate (width - ds.length) '0' ++ ds)

/-- One character inside quotes. -/
def shownChar (quote c : Char) : String :=
  if c == quote || c == '\\' then String.ofList ['\\', c]
  else if c == '\n' then "\\n"
  else if c == '\r' then "\\r"
  else if c == '\t' then "\\t"
  else if isPrintable c then String.singleton c
  else if c.toNat < 0x100 then "\\x" ++ hexFilled 2 c.toNat
  else if c.toNat < 0x10000 then "\\u" ++ hexFilled 4 c.toNat
  else "\\U" ++ hexFilled 8 c.toNat

/-- A text between quotes: single ones, unless it holds a single quote and no double one. -/
def shown (s : String) : String :=
  let quote := if s.toList.contains '\'' && !s.toList.contains '"' then '"' else '\''
  String.singleton quote ++ String.join (s.toList.map (shownChar quote)) ++ String.singleton quote

end Text

/-- The day as year, month and day. -/
def Date.text (d : Date) : String :=
  Decimal.zeroFilled 4 d.year ++ "-" ++ Decimal.zeroFilled 2 d.month ++ "-" ++
    Decimal.zeroFilled 2 d.day

/-- The distance from universal time in hours and minutes. -/
def offsetText (minutes : Int) : String :=
  (if minutes < 0 then "-" else "+") ++ Decimal.zeroFilled 2 (minutes.natAbs / 60) ++ ":" ++
    Decimal.zeroFilled 2 (minutes.natAbs % 60)

/-- The moment, its day and its time of day being joined by the given text. -/
def Moment.textWith (joint : String) (m : Moment) : String :=
  m.date.text ++ joint ++ Decimal.zeroFilled 2 m.hour ++ ":" ++ Decimal.zeroFilled 2 m.minute ++
    ":" ++ Decimal.zeroFilled 2 m.second ++
    (if m.microsecond == 0 then "" else "." ++ Decimal.zeroFilled 6 m.microsecond) ++
    (m.offset.map offsetText).getD ""

namespace Value

/-- A calendar value inside a list: its parts in parentheses. -/
def shownParts (name : String) (parts : List String) : String :=
  name ++ "(" ++ ", ".intercalate parts ++ ")"

/-- The distance from universal time inside a list. -/
def shownOffset (minutes : Int) : String :=
  if minutes == 0 then "datetime.timezone.utc"
  else
    let days := minutes.fdiv 1440
    let seconds := (minutes - days * 1440) * 60
    let parts := (if days == 0 then [] else ["days=" ++ toString days]) ++
      (if seconds == 0 then [] else ["seconds=" ++ toString seconds])
    shownParts "datetime.timezone" [shownParts "datetime.timedelta" parts]

/-- A moment inside a list; seconds and fractions that are zero are left out. -/
def shownMoment (m : Moment) : String :=
  let parts := [m.date.year, m.date.month, m.date.day, m.hour, m.minute] ++
    (if m.microsecond == 0 then (if m.second == 0 then [] else [m.second])
     else [m.second, m.microsecond])
  shownParts "datetime.datetime"
    (parts.map toString ++ (m.offset.map fun o => "tzinfo=" ++ shownOffset o).toList)

/-- One byte inside quotes. -/
def shownByte (quote : Char) (b : UInt8) : String :=
  let c := Char.ofNat b.toNat
  if c == quote || c == '\\' then String.ofList ['\\', c]
  else if c == '\n' then "\\n"
  else if c == '\r' then "\\r"
  else if c == '\t' then "\\t"
  else if 0x20 ≤ b.toNat && b.toNat < 0x7f then String.singleton c
  else "\\x" ++ Text.hexFilled 2 b.toNat

/-- Bytes between quotes. -/
def shownBytes (data : List UInt8) : String :=
  let cs := data.map fun b => Char.ofNat b.toNat
  let quote := if cs.contains '\'' && !cs.contains '"' then '"' else '\''
  "b" ++ String.singleton quote ++ String.join (data.map (shownByte quote)) ++
    String.singleton quote

/-- The spelling of a list or an object inside itself. -/
def shownDots : Value → String
  | .list _ => "[...]"
  | .object _ => "\x7b...\x7d"
  | .pair _ _ => "(...)"
  | _ => "..."

mutual

/-- The spelling of a value inside the lists and objects that have the given numbers. -/
def shownIn (outer : List Nat) : Value → String
  | .null => "None"
  | .bool b => if b then "True" else "False"
  | .int n => toString n
  | .float x => x.text
  | .str s => Text.shown s
  | .list xs => "[" ++ ", ".intercalate (shownItems outer xs) ++ "]"
  | .object ms => "\x7b" ++ ", ".intercalate (shownMembers outer ms) ++ "\x7d"
  | .date d => shownParts "datetime.date" [toString d.year, toString d.month, toString d.day]
  | .moment m => shownMoment m
  | .set [] => "set()"
  | .set (x :: xs) => "\x7b" ++ ", ".intercalate (shownIn outer x :: shownItems outer xs) ++ "\x7d"
  | .bytes data => shownBytes data
  | .pair a b => "(" ++ shownIn outer a ++ ", " ++ shownIn outer b ++ ")"
  | .loop n v => if outer.contains n then shownDots v else shownIn (n :: outer) v
  | .dots => "..."

/-- The spellings of the items of a list. -/
def shownItems (outer : List Nat) : List Value → List String
  | [] => []
  | x :: xs => shownIn outer x :: shownItems outer xs

/-- The spellings of the members of an object. -/
def shownMembers (outer : List Nat) : List (Value × Value) → List String
  | [] => []
  | (k, v) :: rest => (shownIn outer k ++ ": " ++ shownIn outer v) :: shownMembers outer rest

end

/-- The spelling of a value inside a list or an object. -/
def shown (v : Value) : String := shownIn [] v

mutual

/-- Can a value inside the lists and objects with the given numbers be spelled? -/
def isSpellableIn (outer : List Nat) : Value → Bool
  | .int n => Decimal.isSpellable n
  | .list xs => areSpellable outer xs
  | .set xs => areSpellable outer xs
  | .object ms => membersAreSpellable outer ms
  | .pair a b => isSpellableIn outer a && isSpellableIn outer b
  | .loop n v => outer.contains n || isSpellableIn (n :: outer) v
  | _ => true

/-- Can all items of a list be spelled? -/
def areSpellable (outer : List Nat) : List Value → Bool
  | [] => true
  | x :: xs => isSpellableIn outer x && areSpellable outer xs

/-- Can all members of an object be spelled? -/
def membersAreSpellable (outer : List Nat) : List (Value × Value) → Bool
  | [] => true
  | (k, v) :: rest =>
    isSpellableIn outer k && isSpellableIn outer v && membersAreSpellable outer rest

end

/-- Can the value be spelled? No whole number in it may have too many digits. -/
def isSpellable (v : Value) : Bool := isSpellableIn [] v

/-- The spelling of a value by itself. -/
def text : Value → String
  | .str s => s
  | .date d => d.text
  | .moment m => m.textWith " "
  | v => v.shown

end Value

end SpecForge
