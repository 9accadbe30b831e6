import SpecForge.Decimal.Binary

/-!
# Written numbers

How numbers are spelled in documents and in generated code. A whole number has all its digits,
and one with too many of them is not spelled at all. A double has the shortest digits that read
back; it is positional from `1e-4` up to below `1e16` and then keeps a fraction, and has a mantissa
and a signed exponent of at least two digits elsewhere.

The shortest digits are the fewest that read back as the double, and of those the nearest. For one
digit, two digits and so on the two neighbours of the value on that decimal grid are tried;
seventeen digits always suffice.
-/

namespace SpecForge.Decimal

/-! ## Shortest digits -/

/-- A decimal: `digits` times ten to the power `exponent`. -/
structure Scientific where
  digits : Nat
  exponent : Int
deriving DecidableEq, Repr

/-- The least power of ten above a quotient of positive numbers. -/
def ceilLog10 (num den : Nat) : Int :=
  let k := ((num.log2 : Int) - (den.log2 : Int)) * 30103 / 100000
  let above (k : Int) : Bool :=
    if k < 0 then num * Nat.pow 10 k.natAbs < den else num < den * Nat.pow 10 k.natAbs
  (([k - 1, k, k + 1] : List Int).find? above).getD (k + 2)

/-- The quotient `num / den` times ten to the power `-e`, again as a quotient. -/
def scaleDown10 (num den : Nat) (e : Int) : Nat × Nat :=
  if e < 0 then (num * Nat.pow 10 e.natAbs, den) else (num, den * Nat.pow 10 e.natAbs)

/-- The nearer of the two neighbours with `n` digits that read back as the double. -/
def neighbour? (mantissa : Nat) (exponent : Int) (top : Int) (n : Nat) : Option Scientific :=
  let (num, den) := Binary64.ratio mantissa exponent
  let e := top - n
  let (a, b) := scaleDown10 num den e
  let low := a / b
  let r := a % b
  let reads (d : Nat) : Bool :=
    Binary64.ofDecimal false d e == Binary64.finite false mantissa exponent
  let (near, far) :=
    if 2 * r < b || (2 * r == b && low % 2 == 0) then (low, low + 1) else (low + 1, low)
  if reads near then some ⟨near, e⟩ else if reads far then some ⟨far, e⟩ else none

/-- The shortest decimal that reads back as a positive finite double. -/
def shortest (mantissa : Nat) (exponent : Int) : Scientific :=
  let (num, den) := Binary64.ratio mantissa exponent
  let top := ceilLog10 num den
  (((List.range 17).map (· + 1)).findSome? (neighbour? mantissa exponent top)).getD ⟨0, 0⟩

/-! ## Texts of numbers -/

/-- The greatest number of digits of an integer that is read or spelled in base ten. -/
def digitLimit : Nat := 4300

/-- The least natural number that has too many digits to be spelled. -/
def unspelledFrom : Nat := Nat.pow 10 digitLimit

/-- Can a whole number be spelled? -/
def isSpellable (n : Int) : Bool := n.natAbs < unspelledFrom

/-- Where positional spelling ends, and the least number of digits of an exponent. -/
structure Layout where
  leastPositional : Int
  mostPositional : Int
  exponentDigits : Nat

/-- Positional from `1e-4` up to `1e15`; exponents have two digits at least. -/
def Layout.standard : Layout := ⟨-4, 15, 2⟩

/-- The text with zeros in front up to a width. -/
def zeroFilled (width n : Nat) : String :=
  let s := toString n
  String.ofList (List.replicate (width - s.length) '0') ++ s

/-- The text of a decimal whose first digit stands at the power of ten `point - 1`. -/
def Layout.write (layout : Layout) (digits : List Char) (point : Int) : String :=
  let zeros (n : Int) : List Char := List.replicate n.toNat '0'
  let n : Int := digits.length
  let exponent := point - 1
  if layout.leastPositional ≤ exponent && exponent ≤ layout.mostPositional then
    if point ≤ 0 then String.ofList ('0' :: '.' :: zeros (-point) ++ digits)
    else if n ≤ point then String.ofList (digits ++ zeros (point - n) ++ ['.', '0'])
    else String.ofList (digits.take point.toNat ++ '.' :: digits.drop point.toNat)
  else
    let head := digits.take 1 ++ (if digits.length ≤ 1 then [] else '.' :: digits.drop 1)
    String.ofList head ++ "e" ++ (if exponent < 0 then "-" else "+") ++
      zeroFilled layout.exponentDigits exponent.natAbs

/-- The digits of a decimal without the zeros at the end. -/
def significant (n : Nat) : List Char :=
  ((toString n).toList.reverse.dropWhile (· == '0')).reverse

namespace Binary64

/-- The text of a double. -/
def text : Binary64 → String
  | .nan => "nan"
  | .infinite negative => if negative then "-inf" else "inf"
  | .finite negative m e =>
    let sign := if negative then "-" else ""
    if m == 0 then sign ++ "0.0"
    else
      let d := shortest m e
      let point : Int := d.exponent + ((toString d.digits).length : Nat)
      sign ++ Layout.standard.write (significant d.digits) point

end Binary64

/-- The quotient with three digits after the point. -/
def threePlaces (num den : Nat) : String :=
  let n := roundDiv (num * 1000) den
  toString (n / 1000) ++ "." ++ zeroFilled 3 (n % 1000)

/-- A number of a document: whole, or a double. -/
inductive Number where
  | int (n : Int)
  | float (x : Binary64)
deriving DecidableEq, Repr

namespace Number

/-- The text of a number. -/
def text : Number → String
  | .int n => toString n
  | .float x => x.text

/-- Can the number be spelled? -/
def isSpellable : Number → Bool
  | .int n => Decimal.isSpellable n
  | .float _ => true

/-- A double that is a whole number becomes one. -/
def normalize : Number → Number
  | .int n => .int n
  | .float x => match x.toInt? with
    | some n => .int n
    | none => .float x

/-- Is the number a zero? -/
def isZero : Number → Bool
  | .int n => n == 0
  | .float x => x.isZero

end Number

end SpecForge.Decimal
