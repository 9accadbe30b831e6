/-!
# Splitting text

Cutting a text at every occurrence of a character, and the tests on its beginning and end.
-/

namespace SpecForge.Text

/-- The parts between the occurrences of a separator; there is always at least one. -/
def splitChars (sep : Char) : List Char → List (List Char)
  | [] => [[]]
  | c :: cs =>
    if c = sep then [] :: splitChars sep cs
    else match splitChars sep cs with
      | [] => [[c]]
      | part :: parts => (c :: part) :: parts

theorem splitChars_ne_nil (sep : Char) (cs : List Char) : splitChars sep cs ≠ [] := by
  cases cs with
  | nil => simp [splitChars]
  | cons c cs =>
    simp only [splitChars]
    split
    · simp
    · split <;> simp

/-- The parts of a text between the occurrences of a separator. -/
def split (sep : Char) (s : String) : List String := (splitChars sep s.toList).map String.ofList

/-- The part after the last occurrence of a separator. -/
def lastPart (sep : Char) (s : String) : String := (split sep s).getLastD ""

/-- The text without the occurrences of a character at its end. -/
def dropEndChar (c : Char) (s : String) : String :=
  String.ofList (s.toList.reverse.dropWhile (· == c)).reverse

/-- The text with every kind of line break written in one way. -/
def unifyBreaks : List Char → List Char
  | '\r' :: '\n' :: rest => '\n' :: unifyBreaks rest
  | '\r' :: rest => '\n' :: unifyBreaks rest
  | c :: rest => c :: unifyBreaks rest
  | [] => []

/-- The text without the occurrences of a character at its beginning. -/
def dropStartChar (c : Char) (s : String) : String := String.ofList (s.toList.dropWhile (· == c))

/-- Does the second list begin with the first? -/
def beginsWith : List Char → List Char → Bool
  | [], _ => true
  | _ :: _, [] => false
  | a :: as, b :: bs => a == b && beginsWith as bs

/-- Does the first text occur inside the second? -/
def occursIn (part : List Char) : List Char → Bool
  | [] => part.isEmpty
  | c :: cs => beginsWith part (c :: cs) || occursIn part cs

/-- Every occurrence of `old`, found from left to right, replaced by `new`. An empty `old` occurs
before every character and at the end. The first argument counts the characters still to be skipped
because they belong to the last occurrence. -/
def replaceFrom (old new : List Char) : Nat → List Char → List Char
  | _, [] => if old.isEmpty then new else []
  | skip + 1, _ :: cs => replaceFrom old new skip cs
  | 0, c :: cs =>
    if old.isEmpty then new ++ c :: replaceFrom old new 0 cs
    else if beginsWith old (c :: cs) then new ++ replaceFrom old new (old.length - 1) cs
    else c :: replaceFrom old new 0 cs

/-- Every occurrence of `old` replaced by `new`. -/
def replace (s old new : String) : String :=
  String.ofList (replaceFrom old.toList new.toList 0 s.toList)

/-- Does the text end with the given one? -/
def endsWith (s tail : String) : Bool := beginsWith tail.toList.reverse s.toList.reverse

/-- Does the text start with the given one? -/
def startsWith (s head : String) : Bool := beginsWith head.toList s.toList

/-- The text in the middle, if the text starts and ends as given and the two do not overlap. -/
def between? (head tail s : String) : Option String :=
  if startsWith s head && endsWith s tail then
    let cs := s.toList.drop head.length
    some (String.ofList (cs.take (cs.length - tail.length)))
  else none

end SpecForge.Text
