import SpecForge.Text.CharacterName.FromA
import SpecForge.Text.CharacterName.FromE
import SpecForge.Text.CharacterName.FromM
import SpecForge.Text.CharacterName.FromS
import SpecForge.Text.Digit
import SpecForge.Text.Split

/-!
# Names of characters

Which texts name a character. Most names are listed; some ideographs are numbered, and the syllables
of Hangul are made of the short names of their letters. The case of a listed name does not count.
-/

namespace SpecForge.Text

/-- A number written in a base. -/
def numberIn? (base : Nat) (cs : List Char) : Option Nat := do
  let ds ← cs.mapM hexValue?
  if ds.isEmpty || ds.any (base ≤ ·) then none else some (ds.foldl (fun n d => base * n + d) 0)

/-- Characters whose names end in a number: what stands before it, its base, how many digits it may
have, and which numbers there are. -/
structure NumberedNames where
  head : String
  base : Nat
  widths : List Nat
  numbers : List (Nat × Nat)

/-- Is it one of the names? -/
def NumberedNames.holds (names : NumberedNames) (name : List Char) : Bool :=
  let head := names.head.toList
  let digits := name.drop head.length
  beginsWith head name && names.widths.contains digits.length &&
    match numberIn? names.base digits with
    | some n => names.numbers.any fun r => r.1 ≤ n && n ≤ r.2
    | none => false

/-- The ideographs that are unified. Their names are in capital letters. -/
def unifiedIdeographs : NumberedNames :=
  { head := "CJK UNIFIED IDEOGRAPH-"
    base := 16
    widths := [4, 5]
    numbers := [(0x3400, 0x4dbf), (0x4e00, 0x9fff), (0x20000, 0x2a6df), (0x2a700, 0x2b738),
      (0x2b740, 0x2b81d), (0x2b820, 0x2cea1), (0x2ceb0, 0x2ebe0), (0x30000, 0x3134a)] }

/-- The other characters with a number, whose names may also have small letters. -/
def otherNumbered : List NumberedNames :=
  [⟨"CJK COMPATIBILITY IDEOGRAPH-", 16, [4], [(0xf900, 0xfa6d), (0xfa70, 0xfad9)]⟩,
    ⟨"CJK COMPATIBILITY IDEOGRAPH-", 16, [5], [(0x2f800, 0x2fa1d)]⟩,
    ⟨"TANGUT COMPONENT-", 10, [3], [(1, 768)]⟩,
    ⟨"NUSHU CHARACTER-", 16, [5], [(0x1b170, 0x1b2fb)]⟩,
    ⟨"KHITAN SMALL SCRIPT CHARACTER-", 16, [5], [(0x18b00, 0x18cd5)]⟩]

/-- The short names of the letters that may begin a syllable. -/
def leadingLetters : List String :=
  ["G", "GG", "N", "D", "DD", "R", "M", "B", "BB", "S", "SS", "", "J", "JJ", "C", "K", "T", "P",
    "H"]

/-- The short names of vowels. -/
def vowelLetters : List String :=
  ["A", "AE", "YA", "YAE", "EO", "E", "YEO", "YE", "O", "WA", "WAE", "OE", "YO", "U", "WEO", "WE",
    "WI", "YU", "EU", "YI", "I"]

/-- The short names of the letters that may end a syllable. -/
def trailingLetters : List String :=
  ["", "G", "GG", "GS", "N", "NJ", "NH", "D", "L", "LG", "LM", "LB", "LS", "LT", "LP", "LH", "M",
    "B", "BS", "S", "SS", "NG", "J", "C", "K", "T", "P", "H"]

/-- The rest behind the longest of some letters that a text begins with. -/
def dropLongest? (letters : List String) (cs : List Char) : Option (List Char) :=
  let lengths := (letters.map String.toList).filterMap fun letter =>
    if beginsWith letter cs then some letter.length else none
  lengths.max?.map cs.drop

/-- Is it the name of a syllable of Hangul? -/
def isHangulSyllable (name : List Char) : Bool :=
  let head := "HANGUL SYLLABLE ".toList
  beginsWith head name &&
    (do
      let rest ← dropLongest? leadingLetters (name.drop head.length)
      let rest ← dropLongest? vowelLetters rest
      dropLongest? trailingLetters rest) == some []

/-- Is it the name of a character? -/
def isCharacterName (name : List Char) : Bool :=
  let capital := name.map Char.toUpper
  isHangulSyllable name || (name == capital && unifiedIdeographs.holds name) ||
    otherNumbered.any (·.holds capital) ||
    [namesFromA, namesFromE, namesFromM, namesFromS].any (·.holds capital)

end SpecForge.Text
