import SpecForge.Decimal.Literal
import SpecForge.Text.Blank
import SpecForge.Text.Split

/-!
# Numbers in texts

Where a number is wanted, a text that writes one will do. White space around it does not count, nor
do zeros in front of it, a fraction of zeros, and single underscores inside it. A minus sign may
also stand behind the zeros. What writes no whole number may still write a double.
-/

namespace SpecForge.Decimal.Tolerant

open Text

/-- The text without its underscores, none of which stands at an end or beside another one. -/
def withoutUnderscores? (cs : List Char) : Option (List Char) :=
  if cs.head? == some '_' || cs.getLast? == some '_' || occursIn ['_', '_'] cs then none
  else some (cs.filter (· != '_'))

/-- May a number without superfluous zeros begin with the character? -/
def isNumberStart (c : Char) : Bool := ('1' ≤ c && c ≤ '9') || c == '-'

/-- A zero, or an underscore among zeros. -/
def isFiller (c : Char) : Bool := c == '0' || c == '_'

/-- The text without the zeros in front of a number. One character of them stays if nothing follows
or a fraction. -/
def dropLeadingZeros? (cs : List Char) : Option (List Char) :=
  let zeros := if cs.head? == some '0' then cs.takeWhile isFiller else []
  let last := zeros.getLast?.toList
  match cs.drop zeros.length with
  | [] => if zeros.isEmpty then none else some last
  | c :: rest =>
    if isNumberStart c then some (c :: rest)
    else if c == '.' && !zeros.isEmpty then some (last ++ c :: rest)
    else none

/-- The text without a fraction; only a fraction of zeros may be left out. -/
def dropZeroFraction? (cs : List Char) : Option (List Char) :=
  match cs.dropWhile (· != '.') with
  | [] => some cs
  | _ :: fraction =>
    if !fraction.isEmpty && fraction.all (· == '0') then some (cs.takeWhile (· != '.')) else none

/-- The number that digits without a superfluous zero write; there must not be too many of them. -/
def natural? (cs : List Char) : Option Nat := do
  let ds ← cs.mapM asciiDigit?
  if ds.isEmpty || (ds.head? == some 0 && ds.length != 1) || digitLimit < ds.length then none
  else some (ofDigits 10 ds)

/-- A whole number behind its sign. There is no second minus sign behind the zeros. -/
def unsigned? (negative : Bool) (cs : List Char) : Option Int := do
  let cs ← withoutUnderscores? (← dropZeroFraction? (← dropLeadingZeros? cs))
  match cs with
  | '-' :: ds => if negative then none else (natural? ds).map fun n => -(n : Int)
  | ds => (natural? ds).map fun n => if negative then -(n : Int) else (n : Int)

/-- The whole number that a text writes. -/
def whole? (cs : List Char) : Option Int :=
  match cs with
  | '+' :: '-' :: _ => none
  | cs => let (negative, body) := takeSign cs; unsigned? negative body

/-- The number that a text writes. Underscores in a double are left out only where no white space
stands around it. -/
def number? (s : String) : Option Number :=
  let cs := trim isWhiteSpace s.toList
  match whole? cs with
  | some n => some (.int n)
  | none =>
    let spaced := floatNumeral? cs
    (spaced.orElse fun _ => (withoutUnderscores? s.toList).bind floatNumeral?).map .float

end SpecForge.Decimal.Tolerant
