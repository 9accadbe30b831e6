import SpecForge.Decimal.Numeral
import SpecForge.Document.Access
import SpecForge.Text.Blank
import SpecForge.Text.Digit

/-!
# Quantities

A number with a unit, as in the values of design tokens. A quantity is read from a number or from a
text; where no unit is written it is a pixel, and where no number is written it is zero.
-/

namespace SpecForge

open Decimal Text

/-- A number with its unit. -/
structure Quantity where
  number : Number
  unit : String
deriving DecidableEq, Repr

namespace Quantity

/-- The unit where none is written. -/
def pixel : String := "px"

/-- Units are made of ASCII letters and percent signs; so are the four characters that are equal to
an ASCII letter when case is ignored. -/
def isUnitChar (c : Char) : Bool :=
  isAsciiLetter c || c == '%' || c == 'İ' || c == 'ı' || c == 'ſ' || c == '\u212a'

/-- A numeral without sign at the beginning of a text, and the rest: digits with an optional point
and fraction, or a point and digits. -/
def unsigned? (cs : List Char) : Option (List Nat × List Nat × List Char) :=
  match takeDigits decimalValue? cs with
  | ([], '.' :: rest) => match takeDigits decimalValue? rest with
    | ([], _) => none
    | (fraction, rest) => some ([], fraction, rest)
  | ([], _) => none
  | (whole, '.' :: rest) =>
    let (fraction, rest) := takeDigits decimalValue? rest
    some (whole, fraction, rest)
  | (whole, rest) => some (whole, [], rest)

/-- A numeral at the beginning of a text, and the rest. -/
def numeral? (negative : Bool) (cs : List Char) : Option (Numeral × List Char) :=
  (unsigned? cs).map fun (whole, fraction, rest) => (⟨negative, whole, fraction, 0⟩, rest)

/-- The number of a numeral; a whole one has no fraction. -/
def numberOf (n : Numeral) : Number := (Number.float n.toFloat).normalize

/-- A numeral that is the whole text up to a unit. -/
def withUnit? (cs : List Char) : Option Quantity := do
  let (n, unit) ← match cs with
    | '-' :: rest => numeral? true rest
    | _ => numeral? false cs
  if unit.all isUnitChar then
    some ⟨numberOf n, if unit.isEmpty then pixel else String.ofList unit⟩
  else none

/-- A numeral at the beginning, whatever follows. -/
def leading? (cs : List Char) : Option Quantity := do
  let (n, _) ← match cs with
    | '-' :: rest => numeral? true rest
    | '+' :: rest => numeral? false rest
    | _ => numeral? false cs
  some ⟨numberOf n, pixel⟩

/-- The quantity that a text gives. -/
def ofText (s : String) : Quantity :=
  let cs := trim isBlank s.toList
  ((withUnit? cs).orElse fun _ => leading? cs).getD ⟨.int 0, pixel⟩

/-- The quantity that a value gives. -/
def ofValue (v : Value) : Outcome Quantity :=
  match v.number? with
  | some n => .ok ⟨n.normalize, pixel⟩
  | none => v.spelled.map ofText

/-- The number followed by the unit. -/
def text (q : Quantity) : String := q.number.text ++ q.unit

end Quantity

namespace Value

/-- A double that is a whole number becomes one; every other value stays. -/
def normalize : Value → Value
  | .float x => .number (Number.float x).normalize
  | v => v

/-- The text of a value followed by a unit. -/
def withUnit (v : Value) (unit : String) : String := v.normalize.text ++ unit

end Value

end SpecForge
