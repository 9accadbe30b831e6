import SpecForge.Document.Yaml.Fault
import SpecForge.Text.Digit

/-!
# Bytes in base sixty-four

Four characters stand for three bytes. Characters that are no digits are passed over; enough padding
ends the bytes, and what is left of a group without padding is a fault.
-/

namespace SpecForge.Yaml.Base64

open Text

/-- The value of a digit. -/
def digit? (c : Char) : Option Nat :=
  if 'A' ≤ c && c ≤ 'Z' then some (c.toNat - 'A'.toNat)
  else if 'a' ≤ c && c ≤ 'z' then some (c.toNat - 'a'.toNat + 26)
  else if isAsciiDigit c then some (c.toNat - '0'.toNat + 52)
  else if c == '+' then some 62
  else if c == '/' then some 63
  else none

/-- The state of a reading: the bytes so far in reverse, the digits in the group, the bits that are
left over, and the padding marks in the group. -/
structure Group where
  bytes : List UInt8
  digits : Nat
  rest : Nat
  padding : Nat

/-- Adds a digit to the group; every digit but the first completes a byte. -/
def Group.add (g : Group) (d : Nat) : Group :=
  match g.digits with
  | 0 => ⟨g.bytes, 1, d, 0⟩
  | 1 => ⟨UInt8.ofNat (4 * g.rest + d / 16) :: g.bytes, 2, d % 16, 0⟩
  | 2 => ⟨UInt8.ofNat (16 * g.rest + d / 4) :: g.bytes, 3, d % 4, 0⟩
  | _ => ⟨UInt8.ofNat (64 * g.rest + d) :: g.bytes, 0, 0, 0⟩

/-- What is wrong with a group that is not complete. -/
def Group.fault (g : Group) : Fault :=
  if g.digits == 1 then
    .notBase64 ("Invalid base64-encoded string: number of data characters (" ++
      toString (g.bytes.length / 3 * 4 + 1) ++ ") cannot be 1 more than a multiple of 4")
  else .notBase64 "Incorrect padding"

/-- The bytes of the characters after those of a group. -/
def bytesFrom (g : Group) : List Char → Except Fault (List UInt8)
  | [] => if g.digits == 0 then .ok g.bytes.reverse else .error g.fault
  | c :: cs =>
    if c == '=' then
      if 2 ≤ g.digits then
        if 4 ≤ g.digits + g.padding + 1 then .ok g.bytes.reverse
        else bytesFrom { g with padding := g.padding + 1 } cs
      else bytesFrom g cs
    else match digit? c with
      | some d => bytesFrom (g.add d) cs
      | none => bytesFrom g cs

/-- A character that is not ASCII, as messages show it. -/
def shownCode (c : Char) : String :=
  if c.toNat < 0x100 then "\\x" ++ hexFilled 2 c.toNat
  else if c.toNat < 0x10000 then "\\u" ++ hexFilled 4 c.toNat
  else "\\U" ++ hexFilled 8 c.toNat

/-- The fault of a text with a character that is not ASCII. -/
def asciiFault (before : Nat) (run : List Char) : Fault :=
  let place := match run with
    | [c] => "character '" ++ shownCode c ++ "' in position " ++ toString before
    | _ =>
      "characters in position " ++ toString before ++ "-" ++ toString (before + run.length - 1)
  .notAscii ("'ascii' codec can't encode " ++ place ++ ": ordinal not in range(128)")

/-- Is the character in ASCII? -/
def isAscii (c : Char) : Bool := c.toNat < 128

/-- The bytes that a text stands for. -/
def bytes (cs : List Char) : Except Fault (List UInt8) :=
  match cs.dropWhile isAscii with
  | [] => bytesFrom ⟨[], 0, 0, 0⟩ cs
  | rest => .error (asciiFault (cs.length - rest.length) (rest.takeWhile fun c => !isAscii c))

end SpecForge.Yaml.Base64
