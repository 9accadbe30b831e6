import SpecForge.Text.Digit
import SpecForge.Text.Split

/-!
# Tags

Every node has a tag that says how it is to be understood. A plain scalar without a tag gets one by
its form: words for nothing and for truth values, numbers in several bases, numbers with sixties,
days and moments. Any other scalar is a text.
-/

namespace SpecForge.Yaml

/-- What the short names of the standard tags stand for. -/
def standardTag (name : String) : String := "tag:yaml.org,2002:" ++ name

namespace Form

open Text

/-- The words for truth values. -/
def truthWords : List String :=
  ["yes", "Yes", "YES", "no", "No", "NO", "true", "True", "TRUE", "false", "False", "FALSE",
    "on", "On", "ON", "off", "Off", "OFF"]

/-- The words for nothing. -/
def nullWords : List String := ["", "~", "null", "Null", "NULL"]

/-- The text without a sign at its beginning. -/
def unsigned : List Char → List Char
  | '-' :: rest => rest
  | '+' :: rest => rest
  | cs => cs

/-- A digit or an underscore. -/
def isDigitOrBar (c : Char) : Bool := isAsciiDigit c || c == '_'

/-- One or two digits that count less than sixty. -/
def isSixtieth (cs : List Char) : Bool :=
  match cs with
  | [d] => isAsciiDigit d
  | [t, d] => '0' ≤ t && t ≤ '5' && isAsciiDigit d
  | _ => false

/-- A row of digits and underscores that begins with a digit of some class. -/
def isRow (first : Char → Bool) (cs : List Char) : Bool :=
  match cs with
  | c :: rest => first c && rest.all isDigitOrBar
  | [] => false

/-- A digit other than zero. -/
def isPositive (c : Char) : Bool := isAsciiDigit c && c != '0'

/-- A whole number without its sign. -/
def isWholeBody (cs : List Char) : Bool :=
  match cs with
  | '0' :: 'b' :: rest => !rest.isEmpty && rest.all fun c => c == '0' || c == '1' || c == '_'
  | '0' :: 'x' :: rest => !rest.isEmpty && rest.all fun c => isHex c || c == '_'
  | ['0'] => true
  | '0' :: rest => rest.all fun c => ('0' ≤ c && c ≤ '7') || c == '_'
  | _ => match splitChars ':' cs with
    | first :: rest => isRow isPositive first && rest.all isSixtieth
    | [] => false

/-- A whole number: binary, octal, decimal, hexadecimal or with sixties. -/
def isWhole (cs : List Char) : Bool := isWholeBody (unsigned cs)

/-- Nothing, or an exponent with its sign. -/
def isExponent (cs : List Char) : Bool :=
  match cs with
  | [] => true
  | e :: sign :: digits =>
    (e == 'e' || e == 'E') && (sign == '-' || sign == '+') && !digits.isEmpty &&
      digits.all isAsciiDigit
  | _ => false

/-- A fraction with an optional exponent. -/
def isFraction (cs : List Char) : Bool := isExponent (cs.dropWhile isDigitOrBar)

/-- A number with a point, without its sign. -/
def isPointBody (cs : List Char) : Bool :=
  let whole := cs.takeWhile (· != '.')
  match cs.dropWhile (· != '.') with
  | '.' :: rest => match splitChars ':' whole with
    | [w] => isRow isAsciiDigit w && isFraction rest
    | w :: parts => isRow isAsciiDigit w && parts.all isSixtieth && rest.all isDigitOrBar
    | [] => false
  | _ => false

/-- A number with a point, or the name of one that is not finite. -/
def isFloat (cs : List Char) : Bool :=
  let body := unsigned cs
  isPointBody body || ([".inf", ".Inf", ".INF"].map String.toList).contains body ||
    ([".nan", ".NaN", ".NAN"].map String.toList).contains cs ||
    match cs with
    | '.' :: d :: rest => isAsciiDigit d && isFraction rest
    | _ => false

/-- A row of digits whose length is in a range. -/
def isDigits (least most : Nat) (cs : List Char) : Bool :=
  least ≤ cs.length && cs.length ≤ most && cs.all isAsciiDigit

/-- A day with two digits for month and day. -/
def isDay (cs : List Char) : Bool :=
  match splitChars '-' cs with
  | [y, m, d] => isDigits 4 4 y && isDigits 2 2 m && isDigits 2 2 d
  | _ => false

end Form

/-- The parts of a written moment: a day, and perhaps a time of day with a fraction and a zone. -/
structure MomentText where
  year : List Char
  month : List Char
  day : List Char
  time : Option (List Char × List Char × List Char)
  fraction : List Char
  /-- The sign, the hours and the minutes of the distance from universal time; no sign for the
  letter that stands for universal time itself. -/
  zone : Option (Option Char × List Char × List Char)

namespace MomentText

open Text Form

/-- The digits at the beginning of a text, at most so many, and the rest. -/
def takeDigits (most : Nat) (cs : List Char) : List Char × List Char :=
  let ds := (cs.take most).takeWhile isAsciiDigit
  (ds, cs.drop ds.length)

/-- The zone at the end of a moment. -/
def zone? (cs : List Char) : Option (Option (Option Char × List Char × List Char)) :=
  match cs with
  | [] => some none
  | cs => match cs.dropWhile fun c => c == ' ' || c == '\t' with
    | ['Z'] => some (some (none, [], []))
    | sign :: rest =>
      if sign == '-' || sign == '+' then
        match takeDigits 2 rest with
        | ([], _) => none
        | (hours, []) => some (some (some sign, hours, []))
        | (hours, ':' :: minutes) =>
          if isDigits 2 2 minutes then some (some (some sign, hours, minutes)) else none
        | _ => none
      else none
    | [] => none

/-- The time of day and what follows it. -/
def timed? (year month day cs : List Char) : Option MomentText := do
  let (hour, rest) := takeDigits 2 cs
  let (minute, rest) ← match rest with
    | ':' :: rest => some (takeDigits 2 rest)
    | _ => none
  let (second, rest) ← match rest with
    | ':' :: rest => some (takeDigits 2 rest)
    | _ => none
  if hour.isEmpty || minute.length != 2 || second.length != 2 then none
  let (fraction, rest) := match rest with
    | '.' :: rest => (rest.takeWhile isAsciiDigit, rest.dropWhile isAsciiDigit)
    | _ => ([], rest)
  let zone ← zone? rest
  return ⟨year, month, day, some (hour, minute, second), fraction, zone⟩

/-- The parts of a text that is written as a moment or as a day. Month, day and hour may have one
digit. -/
def read? (cs : List Char) : Option MomentText := do
  let (year, rest) := takeDigits 4 cs
  let (month, rest) ← match rest with
    | '-' :: rest => some (takeDigits 2 rest)
    | _ => none
  let (day, rest) ← match rest with
    | '-' :: rest => some (takeDigits 2 rest)
    | _ => none
  if year.length != 4 || month.isEmpty || day.isEmpty then none
  match rest with
  | [] => some ⟨year, month, day, none, [], none⟩
  | joint :: rest =>
    if joint == 'T' || joint == 't' then timed? year month day rest
    else if joint == ' ' || joint == '\t' then
      timed? year month day (rest.dropWhile fun c => c == ' ' || c == '\t')
    else none

end MomentText

/-- A line break at the end of a scalar does not count for its form. -/
def formOf (text : String) : List Char :=
  let cs := text.toList
  if cs.getLast? == some '\n' then cs.dropLast else cs

/-- The standard tag that a plain scalar has by its form. -/
def plainTag (text : String) : String :=
  let cs := formOf text
  let form := String.ofList cs
  if text.isEmpty then "null"
  else if cs.isEmpty then "str"
  else if Form.truthWords.contains form then "bool"
  else if Form.isFloat cs then "float"
  else if Form.isWhole cs then "int"
  else if form == "<<" then "merge"
  else if Form.nullWords.contains form then "null"
  else if Form.isDay cs || ((MomentText.read? cs).bind (·.time)).isSome then "timestamp"
  else if form == "=" then "value"
  else if form == "!" || form == "&" || form == "*" then "yaml"
  else "str"

end SpecForge.Yaml
