import SpecForge.Decimal.Numeral
import SpecForge.Text.Case
import SpecForge.Text.Digit

/-!
# Literals of doubles

A double is written as a decimal numeral in ASCII digits, or by the name of a number that is not
finite.
-/

namespace SpecForge.Decimal

open Text

/-- The sign of a numeral and what follows it. -/
def takeSign : List Char → Bool × List Char
  | '-' :: rest => (true, rest)
  | '+' :: rest => (false, rest)
  | cs => (false, cs)

/-- A decimal numeral with an optional point and an optional exponent, or the name of a number that
is not finite. -/
def floatNumeral? (cs : List Char) : Option Binary64 :=
  let (negative, body) := takeSign cs
  let name := Text.lower (String.ofList body)
  if name == "inf" || name == "infinity" then some (.infinite negative)
  else if name == "nan" then some .nan
  else
    let (whole, rest) := takeDigits asciiDigit? body
    let (fraction, rest) := match rest with
      | '.' :: tail => takeDigits asciiDigit? tail
      | _ => ([], rest)
    let (exponent, rest) := takeExponent asciiDigit? rest
    if (whole.isEmpty && fraction.isEmpty) || !rest.isEmpty then none
    else some (Numeral.toFloat ⟨negative, whole, fraction, exponent⟩)

end SpecForge.Decimal
