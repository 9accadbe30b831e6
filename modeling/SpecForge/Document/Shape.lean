import SpecForge.Failure
import SpecForge.Decimal.Tolerant

/-!
# Shapes

Readers that check the shape of a document part by part. A reader gives what it read or the first
issue, the members of a record being read in the order of its declaration. Numbers and truth values
may be written as texts, and texts as bytes.
-/

namespace SpecForge.Shape

open Decimal

/-- A reader of values. -/
abbrev Reader (α : Type) := Value → Except Issue α

/-- The problem is with the value itself. -/
def here {α : Type} (p : Problem) : Except Issue α := .error ⟨[], p⟩

/-- A reading one level below, its issues seen from here. -/
def under {α : Type} (step : String) : Except Issue α → Except Issue α
  | .ok a => .ok a
  | .error i => .error (i.within step)

/-- Any value. -/
def any : Reader Value := .ok

/-- A text, which bytes may encode. -/
def text : Reader String
  | .str s => .ok s
  | .bytes data => match Value.bytesText? data with
    | some s => .ok s
    | none => here .unreadText
  | _ => here .text

/-- A value that may be null. -/
def optional {α : Type} (r : Reader α) : Reader (Option α)
  | .null => .ok none
  | v => (r v).map some

/-- The truth value that a word stands for; the case of ASCII letters does not count. -/
def truthWord? (w : String) : Option Bool :=
  let w := String.ofList (w.toList.map Char.toLower)
  if ["1", "on", "t", "true", "y", "yes"].contains w then some true
  else if ["0", "off", "f", "false", "n", "no"].contains w then some false
  else none

/-- The truth value that a text stands for. -/
def truthText (s : Option String) : Except Issue Bool :=
  match s.bind truthWord? with
  | some b => .ok b
  | none => here .unreadTruth

/-- Two to the power 63. -/
def wordBound : Int := 9223372036854775808

/-- The truth value that a number stands for, which is zero or one. The wording for another number
depends on whether it is in the given range. -/
def truthNumber (n : Int) (inRange : Bool) : Except Issue Bool :=
  if n == 0 then .ok false
  else if n == 1 then .ok true
  else here (if inRange then .unreadTruth else .truth)

/-- A truth value: a boolean, a number that is zero or one, or a word. -/
def truth : Reader Bool
  | .bool b => .ok b
  | .int n => truthNumber n (-wordBound ≤ n && n < wordBound)
  | .float x => match x.toInt? with
    | some n => truthNumber n (-wordBound < n && n < wordBound)
    | none => here .truth
  | .str s => truthText (some s)
  | .bytes data => truthText (Value.bytesText? data)
  | _ => here .truth

/-- A number that is written as a text. -/
def numberText (s : Option String) : Except Issue Number :=
  match s.bind Tolerant.number? with
  | some n => .ok n
  | none => under "int" (here .unreadWhole)

/-- A number; booleans count as zero and one, and a text is read as a number. -/
def number : Reader Number
  | .str s => numberText (some s)
  | .bytes data => numberText (Value.bytesText? data)
  | v => match v.number? with
    | some n => .ok n
    | none => under "int" (here .whole)

/-- The items of a list, each under its index. -/
def itemsFrom {α : Type} (r : Reader α) : Nat → List Value → Except Issue (List α)
  | _, [] => .ok []
  | i, v :: vs => do
    let a ← under (toString i) (r v)
    let rest ← itemsFrom r (i + 1) vs
    return a :: rest

/-- A list. -/
def list {α : Type} (r : Reader α) : Reader (List α) := fun v =>
  match v.content with
  | .list vs => itemsFrom r 0 vs
  | .set vs => itemsFrom r 0 vs
  | .pair a b => itemsFrom r 0 [a, b]
  | _ => here .list

/-- A list that is kept as a sequence of fixed length. -/
def sequence {α : Type} (r : Reader α) : Reader (List α) := fun v =>
  match v.content with
  | .list vs => itemsFrom r 0 vs
  | .set vs => itemsFrom r 0 vs
  | .pair a b => itemsFrom r 0 [a, b]
  | _ => here .sequence

/-- The step of a path that a key makes. -/
def keyStep : Value → String
  | .str s => s
  | .bool b => if b then "1" else "0"
  | k => if k.isSpellable then k.shown else "<unprintable int object>"

/-- A member put at the end, or in the place of the one that has its key already. -/
def putMember {α : Type} (key : String) (a : α) : List (String × α) → List (String × α)
  | [] => [(key, a)]
  | m :: rest => if m.1 == key then (key, a) :: rest else m :: putMember key a rest

/-- The members of a table, each under its key, behind those read so far. -/
def tableFrom {α : Type} (r : Reader α) (sofar : List (String × α)) :
    List (Value × Value) → Except Issue (List (String × α))
  | [] => .ok sofar
  | (k, v) :: rest => do
    let key ← under (keyStep k) (under "[key]" (text k))
    let a ← under (keyStep k) (r v)
    tableFrom r (putMember key a sofar) rest

/-- An object with arbitrary texts as keys. -/
def table {α : Type} (r : Reader α) : Reader (List (String × α)) := fun v =>
  match v.content with
  | .object ms => tableFrom r [] ms
  | _ => here .table

/-- The members of an object that is to be read as a record of the given name. -/
def record (name : String) : Reader (List (Value × Value)) := fun v =>
  match v.content with
  | .object ms => .ok ms
  | _ => here (.record name)

/-- The keys under which a member may stand, the first one that occurs being taken; the reading of
an absent member is `absent`. -/
def memberOr {α : Type} (keys : List String) (absent : Except Issue α) (r : Reader α)
    (ms : List (Value × Value)) : Except Issue α :=
  match keys.findSome? fun k => (Value.lookup k ms).map fun v => (k, v) with
  | some (k, v) => under k (r v)
  | none => absent

/-- A member that must be there. -/
def required {α : Type} (key other : String) (r : Reader α) (ms : List (Value × Value)) :
    Except Issue α :=
  memberOr [key, other] (under key (here .missing)) r ms

/-- A member that has a value of its own when it is absent. -/
def given {α : Type} (key other : String) (default : α) (r : Reader α)
    (ms : List (Value × Value)) : Except Issue α :=
  memberOr [key, other] (.ok default) r ms

/-- A member that may be absent or null. -/
def possible {α : Type} (key other : String) (r : Reader α) (ms : List (Value × Value)) :
    Except Issue (Option α) :=
  given key other none (optional r) ms

/-- The text if it is there and not empty, and otherwise another. -/
def textOr (text : Option String) (other : String) : String :=
  match text with
  | some s => if s.isEmpty then other else s
  | none => other

end SpecForge.Shape
