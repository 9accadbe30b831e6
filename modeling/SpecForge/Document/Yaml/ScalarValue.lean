import SpecForge.Decimal.Literal
import SpecForge.Document.Yaml.Base64
import SpecForge.Document.Yaml.Fault
import SpecForge.Document.Yaml.Tag
import SpecForge.Text.Blank

/-!
# What texts mean

The value of the text of a scalar by its tag: numbers in several bases and with sixties, truth
values, days and moments, bytes. Digits may be those of any script, and white space may stand around
a number.
-/

namespace SpecForge.Yaml

open Decimal Text

/-! ## Numbers -/

/-- A decimal digit in its ASCII form; any other character stays. -/
def asciiForm (c : Char) : Char :=
  match decimalValue? c with
  | some d => Nat.digitChar d
  | none => c

/-- The text of a number without the white space around it, its digits in ASCII form. -/
def bareNumber (cs : List Char) : List Char := (trim isWhiteSpace cs).map asciiForm

/-- A digit in a base. -/
def digitIn? (base : Nat) (c : Char) : Option Nat := (hexValue? c).filter (· < base)

/-- The text without the mark of its base, a zero and a letter. -/
def dropBaseMark (base : Nat) (cs : List Char) : List Char :=
  match cs with
  | '0' :: letter :: rest =>
    let letter := letter.toLower
    if (base == 2 && letter == 'b') || (base == 8 && letter == 'o') ||
        (base == 16 && letter == 'x') then rest
    else cs
  | _ => cs

/-- A whole number in a base, with an optional sign and an optional mark of the base. In base ten it
must not have too many digits. -/
def wholeIn (base : Nat) (cs : List Char) : Except Fault Int :=
  let (negative, body) := takeSign (bareNumber cs)
  match (dropBaseMark base body).mapM (digitIn? base) with
  | some (d :: ds) =>
    if base == 10 && digitLimit < ds.length + 1 then .error .unreadNumber
    else
      let n : Int := ((ofDigits base (d :: ds) : Nat) : Int)
      .ok (if negative then -n else n)
  | _ => .error .unreadNumber

/-- The number whose sixties are given from the first to the last. -/
def ofSixties (parts : List Int) : Int := parts.foldl (fun n d => 60 * n + d) 0

/-- The text without underscores. -/
def withoutBars (cs : List Char) : List Char := cs.filter (· != '_')

/-- A whole number, underscores left out. -/
def wholeValue (text : String) : Except Fault Int := do
  let cs := withoutBars text.toList
  let (negative, body) := takeSign cs
  let n ← match body with
    | [] => .error .emptyNumeral
    | ['0'] => .ok 0
    | '0' :: 'b' :: rest => wholeIn 2 rest
    | '0' :: 'x' :: rest => wholeIn 16 rest
    | '0' :: _ => wholeIn 8 body
    | _ =>
      if body.contains ':' then ((splitChars ':' body).mapM (wholeIn 10)).map ofSixties
      else wholeIn 10 body
  return if negative then -n else n

/-- A double in decimal notation. -/
def floatPart (cs : List Char) : Except Fault Binary64 :=
  match floatNumeral? (bareNumber cs) with
  | some x => .ok x
  | none => .error .unreadNumber

/-- The sum of sixties, given from the last to the first, the first one counting `unit`. Every step
is rounded; a unit beyond the range of doubles counts nothing. -/
def sumSixties (unit : Nat) (sum : Binary64) : List Binary64 → Except Fault Binary64
  | [] => .ok sum
  | x :: rest =>
    match Binary64.ofRatio false unit 1 with
    | .infinite _ => .error .hugeSixties
    | u => sumSixties (60 * unit) (sum.add (x.mul u)) rest

/-- The text of a double in lower case without underscores, its sign apart. -/
def floatText (text : String) : Bool × List Char := takeSign (withoutBars (lower text).toList)

/-- The name of the number that is none. -/
def nanName : List Char := ".nan".toList

/-- A double, underscores left out. -/
def floatValue (text : String) : Except Fault Binary64 := do
  let (negative, body) := floatText text
  let x ←
    if text.toList.all (· == '_') then .error .emptyNumeral
    else if body == ".inf".toList then .ok (.infinite false)
    else if body == nanName then .ok .nan
    else if body.contains ':' then do
      sumSixties 1 (.zero false) (← (splitChars ':' body).mapM floatPart).reverse
    else floatPart body
  return if negative then x.neg else x

/-! ## Days and moments -/

/-- The number that a row of digits writes. -/
def numberOf (cs : List Char) : Nat := ofDigits 10 (cs.filterMap asciiDigit?)

/-- The number of days in a month. -/
def monthLength (year month : Nat) : Nat :=
  if month == 2 then if isLeapYear year then 29 else 28
  else if [4, 6, 9, 11].contains month then 30
  else 31

/-- A day of the calendar. -/
def dateOf (year month day : Nat) : Except Fault Date :=
  if year == 0 || month == 0 || 12 < month || day == 0 || monthLength year month < day then
    .error .unreadNumber
  else .ok ⟨year, month, day⟩

/-- The distance from universal time in minutes; it is less than a day. -/
def offsetOf (sign : Option Char) (hours minutes : List Char) : Except Fault Int :=
  let n := 60 * numberOf hours + numberOf minutes
  if 1440 ≤ n then .error .unreadNumber
  else .ok (if sign == some '-' then -(n : Int) else n)

/-- A millionth part is what the first six digits of a fraction count. -/
def microseconds (fraction : List Char) : Nat :=
  let ds := fraction.take 6
  numberOf (ds ++ List.replicate (6 - ds.length) '0')

/-- The day or the moment that a text writes. -/
def momentValue (text : String) : Except Fault Value :=
  match MomentText.read? (formOf text) with
  | none => .error .unreadMoment
  | some m => do
    match m.time with
    | none => return .date (← dateOf (numberOf m.year) (numberOf m.month) (numberOf m.day))
    | some (hour, minute, second) =>
      let offset ← match m.zone with
        | none => pure none
        | some (sign, hours, minutes) => pure (some (← offsetOf sign hours minutes))
      let date ← dateOf (numberOf m.year) (numberOf m.month) (numberOf m.day)
      let (h, mi, s) := (numberOf hour, numberOf minute, numberOf second)
      if 24 ≤ h || 60 ≤ mi || 60 ≤ s then throw .unreadNumber
      return .moment ⟨date, h, mi, s, microseconds m.fraction, offset⟩

/-! ## All scalars -/

/-- The truth value that a word stands for. -/
def truthValue (text : String) : Except Fault Bool :=
  let word := lower text
  if ["yes", "true", "on"].contains word then .ok true
  else if ["no", "false", "off"].contains word then .ok false
  else .error .unknownWord

/-- The value of a text by the short name of its tag. -/
def scalarValue (name text : String) : Except Fault Value :=
  match name with
  | "null" => .ok .null
  | "bool" => (truthValue text).map .bool
  | "int" => (wholeValue text).map .int
  | "float" => (floatValue text).map .float
  | "binary" => (Base64.bytes text.toList).map .bytes
  | "timestamp" => momentValue text
  | _ => .ok (.str text)

end SpecForge.Yaml
