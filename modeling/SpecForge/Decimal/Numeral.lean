import SpecForge.Decimal.Written

/-!
# Reading numerals

A numeral is a sign, digits before and after the point, and a power of ten. Which characters count
as digits is a parameter: some texts admit the digits of every script, others those of ASCII only.
-/

namespace SpecForge.Decimal

/-- The number written by a row of digits in the given base. -/
def ofDigits (base : Nat) (ds : List Nat) : Nat := ds.foldl (fun n d => base * n + d) 0

/-- The digits at the beginning of a text, and the rest. -/
def takeDigits (digit? : Char → Option Nat) : List Char → List Nat × List Char
  | [] => ([], [])
  | c :: cs => match digit? c with
    | some d => let (ds, rest) := takeDigits digit? cs; (d :: ds, rest)
    | none => ([], c :: cs)

/-- A decimal numeral. -/
structure Numeral where
  negative : Bool
  whole : List Nat
  fraction : List Nat
  exponent : Int
deriving Repr

/-- The double nearest to the numeral. -/
def Numeral.toFloat (n : Numeral) : Binary64 :=
  .ofDecimal n.negative (ofDigits 10 (n.whole ++ n.fraction)) (n.exponent - n.fraction.length)

/-- The integer written by the digits before the point. -/
def Numeral.toInt (n : Numeral) : Int :=
  let m : Int := ((ofDigits 10 n.whole : Nat) : Int)
  if n.negative then -m else m

/-- A signed row of digits, and the rest; none if there is no digit. -/
def takeSigned? (digit? : Char → Option Nat) (cs : List Char) : Option (Int × List Char) :=
  let (negative, body) := match cs with
    | '-' :: rest => (true, rest)
    | '+' :: rest => (false, rest)
    | _ => (false, cs)
  match takeDigits digit? body with
  | ([], _) => none
  | (ds, rest) =>
    let m : Int := ((ofDigits 10 ds : Nat) : Int)
    some (if negative then -m else m, rest)

/-- An exponent part, or zero and the whole text if none is complete. -/
def takeExponent (digit? : Char → Option Nat) (cs : List Char) : Int × List Char :=
  match cs with
  | c :: rest =>
    if c == 'e' || c == 'E' then (takeSigned? digit? rest).getD (0, cs) else (0, cs)
  | [] => (0, [])

end SpecForge.Decimal
