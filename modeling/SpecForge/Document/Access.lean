import SpecForge.Failure
import SpecForge.Text.Split

/-!
# Parts of documents

The members of a value that must be an object, and the tests that a value of another kind does not
admit. These are the only places where a document of an unexpected shape stops a reading without a
message of its own.
-/

namespace SpecForge

/-- The text of a number, if it has one. -/
def Decimal.Number.spelled (n : Decimal.Number) : Outcome String :=
  if n.isSpellable then .ok n.text else .error .unspellable

namespace Value

/-- The member of an object with the given key, `null` when there is none. -/
def part (v : Value) (key : String) : Outcome Value :=
  match v.content with
  | .object ms => .ok ((lookup key ms).getD .null)
  | _ => .error .noParts

/-- All members of an object. -/
def allMembers (v : Value) : Outcome (List (Value × Value)) :=
  match v.content with
  | .object ms => .ok ms
  | _ => .error .noParts

/-- The value itself if it is given, and otherwise another. -/
def orElse (v w : Value) : Value := if v.isGiven then v else w

/-- The text that a value is. Bytes have the parts of a text, but not those that are asked for. -/
def asText : Value → Outcome String
  | .str s => .ok s
  | .bytes _ => .error .unfit
  | _ => .error .noParts

/-- The spelling of a value by itself, if it has one. -/
def spelled (v : Value) : Outcome String :=
  if v.isSpellable then .ok v.text else .error .unspellable

/-- The items of a list; the keys of an object and the characters of a text count as items too. -/
def each (v : Value) : Outcome (List Value) :=
  match v.content with
  | .list xs => .ok xs
  | .set xs => .ok xs
  | .object ms => .ok (ms.map Prod.fst)
  | .str s => .ok (s.toList.map fun c => .str (String.singleton c))
  | .bytes data => .ok (data.map fun b => .int b.toNat)
  | .pair a b => .ok [a, b]
  | _ => .error .unfit

/-- Does a row of bytes occur inside another one? -/
def bytesOccurIn (part : List UInt8) : List UInt8 → Bool
  | [] => part.isEmpty
  | b :: rest => part.isPrefixOf (b :: rest) || bytesOccurIn part rest

/-- Does a name occur in a row of bytes: as a part of it, or as the number of one of them? -/
def bytesHold (data : List UInt8) (name : Value) : Outcome Bool :=
  match name with
  | .bytes part => .ok (bytesOccurIn part data)
  | .float _ => .error .unfit
  | name => match name.number? with
    | some (.int n) =>
      if 0 ≤ n && n < 256 then .ok (data.any fun b => (b.toNat : Int) == n)
      else .error .unreadNumber
    | _ => .error .unfit

/-- Does a name occur in a value: among the items of a list, among the keys of an object, or as a
part of a text or of bytes? -/
def holds (v name : Value) : Outcome Bool :=
  match v.content with
  | .list xs => .ok (xs.any name.same)
  | .set xs => .ok (xs.any name.same)
  | .object ms => .ok (ms.any fun m => name.same m.1)
  | .str s => match name with
    | .str n => .ok (Text.occursIn n.toList s.toList)
    | _ => .error .unfit
  | .bytes data => bytesHold data name
  | .pair a b => .ok (name.same a || name.same b)
  | _ => .error .unfit

end Value

end SpecForge
