import SpecForge.Decimal.Written

/-!
# Document values

What a JSON or YAML document holds. Members of an object keep the order in which they were written;
in YAML a key may be any scalar, and there are dates, moments, sets, pairs and bytes besides. A list
or an object of YAML may hold itself; it has a number then, by which it is recognized inside itself,
where it is shown again to some depth and dots stand for its parts below that.
-/

namespace SpecForge

open Decimal

/-- A calendar day. -/
structure Date where
  year : Nat
  month : Nat
  day : Nat
deriving DecidableEq, Repr

/-- A moment of a day, with the distance from universal time in minutes if that is known. -/
structure Moment where
  date : Date
  hour : Nat
  minute : Nat
  second : Nat
  microsecond : Nat
  offset : Option Int
deriving DecidableEq, Repr

/-- The number of days before a year, counted from a day in the past. -/
def daysBeforeYear (year : Nat) : Nat := 365 * year + year / 4 - year / 100 + year / 400

/-- The number of days in the months before one, in a common year. -/
def daysBeforeMonth (month : Nat) : Nat :=
  ([0, 31, 59, 90, 120, 151, 181, 212, 243, 273, 304, 334][month - 1]?).getD 0

/-- Is there a twenty-ninth of February in the year? -/
def isLeapYear (year : Nat) : Bool := year % 4 == 0 && (year % 100 != 0 || year % 400 == 0)

/-- The number of a day, counted from a day in the past. -/
def Date.number (d : Date) : Nat :=
  daysBeforeYear (d.year - 1) + daysBeforeMonth d.month + d.day +
    (if 2 < d.month && isLeapYear d.year then 1 else 0)

/-- The number of millionths of a second from a day in the past, the clock being set back by the
distance from universal time. -/
def Moment.instant (m : Moment) (offset : Int) : Int :=
  let minutes : Int := (m.date.number * 1440 + m.hour * 60 + m.minute : Nat)
  ((minutes - offset) * 60 + (m.second : Int)) * 1000000 + (m.microsecond : Int)

/-- Moments are equal at the same instant. One whose distance from universal time is not known is
equal only to such a one. -/
def Moment.same (m n : Moment) : Bool :=
  match m.offset, n.offset with
  | none, none => m == n
  | some a, some b => m.instant a == n.instant b
  | _, _ => false

/-- A document, or a part of one. -/
inductive Value where
  | null
  | bool (b : Bool)
  | int (n : Int)
  | float (x : Binary64)
  | str (s : String)
  | list (items : List Value)
  | object (members : List (Value × Value))
  | date (d : Date)
  | moment (m : Moment)
  | set (items : List Value)
  | bytes (data : List UInt8)
  | pair (first second : Value)
  | loop (number : Nat) (content : Value)
  | dots
deriving Inhabited

namespace Value

instance (v : Value) : Decidable (v = .null) :=
  match v with
  | .null => .isTrue rfl
  | .bool _ | .int _ | .float _ | .str _ | .list _ | .object _ | .date _ | .moment _ | .set _
  | .bytes _ | .pair _ _ | .loop _ _ | .dots => .isFalse nofun

/-- An object whose keys are texts. -/
def record (members : List (String × Value)) : Value :=
  .object (members.map fun m => (.str m.1, m.2))

/-- A number of a document. -/
def number : Number → Value
  | .int n => .int n
  | .float x => .float x

/-- A text, or `null` when there is none. -/
def optional : Option String → Value
  | some s => .str s
  | none => .null

/-- The numeric value, booleans counting as zero and one. -/
def number? : Value → Option Number
  | .bool b => some (.int (if b then 1 else 0))
  | .int n => some (.int n)
  | .float x => some (.float x)
  | _ => none

/-- Numbers are equal by value, whether whole or not. -/
def sameNumber : Number → Number → Bool
  | .int m, .int n => m == n
  | .int m, .float x => x.toInt? == some m
  | .float x, .int m => x.toInt? == some m
  | .float x, .float y => x.same y

/-- Equality of scalars. Composite values are equal to nothing. -/
def same (a b : Value) : Bool :=
  match a.number?, b.number? with
  | some m, some n => sameNumber m n
  | none, none => match a, b with
    | .null, .null => true
    | .str s, .str t => s == t
    | .date d, .date e => d == e
    | .moment m, .moment n => m.same n
    | .bytes x, .bytes y => x == y
    | _, _ => false
  | _, _ => false

/-- The text that bytes encode, if they encode one. -/
def bytesText? (data : List UInt8) : Option String := String.fromUTF8? ⟨data.toArray⟩

/-- Is the value this text? -/
def isText (s : String) : Value → Bool
  | .str t => s == t
  | _ => false

/-- The list or object that a value is, without the number that it has if it holds itself. -/
def content : Value → Value
  | .loop _ v => v
  | v => v

/-- Does the value hold itself, and stand so deep inside itself that it is not shown again? -/
def isCut (v : Value) : Bool :=
  match v.content with
  | .list [.dots] => true
  | .object [(.dots, _)] => true
  | _ => false

/-- A value counts as given unless it is null, false, zero or empty. -/
def isGiven : Value → Bool
  | .null => false
  | .bool b => b
  | .int n => n != 0
  | .float x => !x.isZero
  | .str s => !s.isEmpty
  | .list xs => !xs.isEmpty
  | .object ms => !ms.isEmpty
  | .set xs => !xs.isEmpty
  | .bytes data => !data.isEmpty
  | .date _ => true
  | .moment _ => true
  | .pair _ _ => true
  | .loop _ _ => true
  | .dots => true

/-- Is the value an object? -/
def isObject (v : Value) : Bool :=
  match v.content with
  | .object _ => true
  | _ => false

/-- The value of the first member with the given key. -/
def lookup (key : String) : List (Value × Value) → Option Value
  | [] => none
  | (k, v) :: rest => if k.isText key then some v else lookup key rest

/-- The member of an object with the given key. -/
def member? (v : Value) (key : String) : Option Value :=
  match v.content with
  | .object ms => lookup key ms
  | _ => none

/-- Adds a member at the end, or puts the value in the place of the one that has the key already. -/
def insert (key value : Value) : List (Value × Value) → List (Value × Value)
  | [] => [(key, value)]
  | (k, v) :: rest => if k.same key then (k, value) :: rest else (k, v) :: insert key value rest

theorem sizeOf_lookup_lt {key : String} {ms : List (Value × Value)} {v : Value}
    (h : lookup key ms = some v) : sizeOf v < sizeOf ms := by
  induction ms with
  | nil => simp [lookup] at h
  | cons m rest ih =>
    obtain ⟨k, w⟩ := m
    simp only [lookup] at h
    split at h
    · cases h; simp; omega
    · have := ih h; simp; omega

theorem sizeOf_content_le (v : Value) : sizeOf v.content ≤ sizeOf v := by
  cases v <;> simp [content]

theorem sizeOf_member?_lt {v w : Value} {key : String} (h : v.member? key = some w) :
    sizeOf w < sizeOf v := by
  have hc := sizeOf_content_le v
  unfold member? at h
  split at h
  · next ms heq =>
    have := sizeOf_lookup_lt h
    rw [heq] at hc
    simp at hc
    omega
  · cases h

end Value

end SpecForge
