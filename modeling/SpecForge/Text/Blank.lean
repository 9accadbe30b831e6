/-!
# Blank characters

White space of every script, and the operations on text that look at nothing else: cutting it off at
both ends, and cutting a text into the words between.
-/

namespace SpecForge.Text

/-- White space: spaces of every width, tabs and line breaks. -/
def isWhiteSpace (c : Char) : Bool :=
  let n := c.toNat
  (0x9 ≤ n && n ≤ 0xd) || n == 0x20 || n == 0x85 || n == 0xa0 || n == 0x1680 ||
    (0x2000 ≤ n && n ≤ 0x200a) || n == 0x2028 || n == 0x2029 || n == 0x202f || n == 0x205f ||
    n == 0x3000

/-- White space, or one of the four control characters that separate records. -/
def isBlank (c : Char) : Bool :=
  isWhiteSpace c || (0x1c ≤ c.toNat && c.toNat ≤ 0x1f)

theorem isBlank_of_isWhitespace {c : Char} (h : c.isWhitespace = true) : isBlank c = true := by
  simp only [Char.isWhitespace, Bool.or_eq_true, decide_eq_true_eq] at h
  rcases h with ((rfl | rfl) | rfl) | rfl <;> decide

/-- The text without the characters of the class at its two ends. -/
def trim (p : Char → Bool) (cs : List Char) : List Char :=
  ((cs.dropWhile p).reverse.dropWhile p).reverse

/-- The text without the blanks at its two ends. -/
def strip (s : String) : String := String.ofList (trim isBlank s.toList)

/-- The longest parts of the text that hold no character of the class, the part read so far given in
reverse. -/
def wordsFrom (p : Char → Bool) (current : List Char) : List Char → List (List Char)
  | [] => if current.isEmpty then [] else [current.reverse]
  | c :: cs =>
    if p c then
      if current.isEmpty then wordsFrom p [] cs else current.reverse :: wordsFrom p [] cs
    else wordsFrom p (c :: current) cs

/-- The words of a text: its longest parts without a blank. -/
def words (s : String) : List String := (wordsFrom isBlank [] s.toList).map String.ofList

/-- The words of a text with one space between neighbours. -/
def oneSpaced (s : String) : String := " ".intercalate (words s)

end SpecForge.Text
