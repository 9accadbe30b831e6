import SpecForge.Decimal.Numeral
import SpecForge.Text.Blank
import SpecForge.Text.Digit

/-!
# Colors

A color of four bytes, written as three, six or eight hexadecimal digits after an optional number
sign. Three digits stand for six, each of them doubled; without the last byte a color is opaque.
-/

namespace SpecForge

/-- A color. -/
structure Color where
  red : Nat
  green : Nat
  blue : Nat
  alpha : Nat
deriving DecidableEq

namespace Color

open Text

/-- The color of eight hexadecimal digits. -/
def ofDigits? : List Nat → Option Color
  | [a, b, c, d, e, f, g, h] => some ⟨16 * a + b, 16 * c + d, 16 * e + f, 16 * g + h⟩
  | _ => none

/-- Three digits doubled, or six or eight digits, as eight. -/
def eightDigits : List Nat → List Nat
  | [r, g, b] => [r, r, g, g, b, b, 15, 15]
  | ds => if ds.length == 6 then ds ++ [15, 15] else ds

/-- The text without a number sign at its beginning. -/
def bare (cs : List Char) : List Char :=
  match cs with
  | '#' :: rest => rest
  | cs => cs

/-- The color that a text writes. -/
def ofHex? (s : String) : Option Color := do
  let ds ← (bare (trim isBlank s.toList)).mapM hexValue?
  ofDigits? (eightDigits ds)

/-- A byte as two hexadecimal digits in upper case. -/
def hexByte (n : Nat) : String :=
  String.ofList ([n / 16 % 16, n % 16].map fun d => (Nat.digitChar d).toUpper)

end Color

end SpecForge
