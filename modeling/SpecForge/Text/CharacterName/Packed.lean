/-!
# Packed names

A list of names in capital letters, in alphabetical order, each written without what it shares with
the one before. A small letter stands before each name and tells how many characters it shares: `a`
for none, `b` for one and so on; `z` stands for twenty-five, and another small letter follows.
-/

namespace SpecForge.Text

/-- A packed list of names, in pieces. -/
abbrev PackedNames := List String

/-- What has been read of a packed list: the last name so far, its characters in reverse, and, while
small letters are read, how many of them are shared. -/
structure Unpacking where
  shared : Option Nat
  reversed : List Char

namespace Unpacking

/-- Nothing has been read. -/
def start : Unpacking := ⟨some 0, []⟩

/-- Reads a small letter, given the number of characters that are known to be shared. -/
def readMark (u : Unpacking) (known : Nat) (c : Char) : Unpacking :=
  let shared := known + (c.toNat - 'a'.toNat)
  if c == 'z' then ⟨some shared, u.reversed⟩
  else ⟨none, u.reversed.drop (u.reversed.length - shared)⟩

/-- Reads a character. A name is complete before the small letter of the next one. -/
def read (u : Unpacking) (c : Char) : Unpacking :=
  match u.shared with
  | some known => u.readMark known c
  | none => if c.isLower then u.readMark 0 c else ⟨none, c :: u.reversed⟩

/-- Is a name, given in reverse, complete before a character and equal to the one read last? -/
def isAt (u : Unpacking) (reversed : List Char) (c : Char) : Bool :=
  u.shared.isNone && c.isLower && u.reversed == reversed

/-- Does a name, given in reverse, occur in the rest of a packed list? -/
def meets (reversed : List Char) : Unpacking → List Char → Bool
  | u, [] => u.reversed == reversed
  | u, c :: cs => u.isAt reversed c || meets reversed (u.read c) cs

end Unpacking

/-- Does a name occur in a packed list? -/
def PackedNames.holds (names : PackedNames) (name : List Char) : Bool :=
  Unpacking.start.meets name.reverse (names.flatMap String.toList)

end SpecForge.Text
