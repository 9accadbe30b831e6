import SpecForge.Document.Value

/-!
# Placement

A set does not keep the order in which its members were written. When all of them are numbers each
has a place in a table, by its remainder, and where that place is taken it tries others. The members
are shown in the order of their places.
-/

namespace SpecForge.Placement

open Decimal

/-- Numbers have their place by the remainder of this one. -/
def modulus : Nat := Nat.pow 2 61 - 1

/-- A remainder with a sign. The one of minus one is minus two. -/
def signed (negative : Bool) (n : Nat) : Int :=
  let k := Binary64.withSign negative (n % modulus)
  if k == -1 then -2 else k

/-- The remainder of a number. A power of two counts by its exponent modulo 61, also a negative one,
so that equal numbers have the same remainder. What is not a number has none. -/
def remainder? (v : Value) : Option Int :=
  match v.number? with
  | some (.int n) => some (signed (n < 0) n.natAbs)
  | some (.float (.finite negative m e)) => some (signed negative (m * Nat.pow 2 (e % 61).toNat))
  | some (.float (.infinite negative)) => some (signed negative 314159)
  | _ => none

/-- A table has at least eight places, and for more than four members more than twice as many as
members. -/
def tableSize (count : Nat) : Nat := if count ≤ 4 then 8 else Nat.pow 2 ((2 * count).log2 + 1)

/-- The first free place that a number comes to. From a place it tries the nine behind it too, if
there are as many; then it goes on to another place, by what is left of it. The first number bounds
the tries. -/
def freePlace (table : Array (Option Value)) : Nat → Nat → Nat → Nat
  | 0, place, _ => place
  | tries + 1, place, rest =>
    let count := if place + 9 < table.size then 10 else 1
    match (List.range count).find? fun k => (table.getD (place + k) none).isNone with
    | some k => place + k
    | none =>
      let rest := rest / 32
      freePlace table tries ((place * 5 + 1 + rest) % table.size) rest

/-- Two to the power 64; remainders count modulo this number. -/
def wordSize : Int := 18446744073709551616

/-- Puts a number into its place. -/
def put (table : Array (Option Value)) (member : Value × Int) : Array (Option Value) :=
  let rest := (member.2 % wordSize).toNat
  let place := freePlace table (table.size + 13) (rest % table.size) rest
  table.setIfInBounds place (some member.1)

/-- The members of a set as they are shown. -/
def shown (members : List Value) : List Value :=
  match members.mapM remainder? with
  | none => members
  | some remainders =>
    let table := Array.replicate (tableSize members.length) none
    ((members.zip remainders).foldl put table).toList.filterMap id

end SpecForge.Placement
