import SpecForge.Text.Blank
import SpecForge.Text.Case
import SpecForge.Text.Digit

/-!
# Names

Names of a specification turned into names of code: joined words with inner capitals, words joined
by hyphens, and identifiers made from any text. Each conversion is a function on the list of
characters.
-/

namespace SpecForge.Name

open Text

/-- The first character in upper case, the rest as it is. -/
def capitalizeChars : List Char → List Char
  | [] => []
  | c :: cs => upperChar c ++ cs

/-- The first character in lower case, the rest as it is. -/
def decapitalizeChars : List Char → List Char
  | [] => []
  | c :: cs => lowerChar c ++ cs

/-- The first character in upper case, the rest as it is. -/
def capitalize (s : String) : String := String.ofList (capitalizeChars s.toList)

/-- The first character in lower case, the rest as it is. -/
def decapitalize (s : String) : String := String.ofList (decapitalizeChars s.toList)

/-- Hyphens and underscores separate words. -/
def isSeparator (c : Char) : Bool := c == '-' || c == '_'

/-- Drops every separator and puts the character after it into upper case; a separator at the end or
before a line break stays. -/
def joinWords : List Char → List Char
  | c :: d :: rest =>
    if isSeparator c && d != '\n' then upperChar d ++ joinWords rest else c :: joinWords (d :: rest)
  | [c] => [c]
  | [] => []

/-- Joined words, the first one in lower case. -/
def camelChars (cs : List Char) : List Char := decapitalizeChars (joinWords cs)

/-- Joined words, the first one in lower case. -/
def toCamel (s : String) : String := String.ofList (camelChars s.toList)

/-- Joined words, all with a capital. -/
def toPascal (s : String) : String := capitalize (toCamel s)

/-- An ASCII letter in upper case. -/
def isCapital (c : Char) : Bool := 'A' ≤ c && c ≤ 'Z'

/-- An ASCII letter in lower case. -/
def isSmall (c : Char) : Bool := 'a' ≤ c && c ≤ 'z'

/-- Goes through a text and puts a hyphen between two neighbours that pass a test, which sees what
follows them as well. The search goes on behind the two. -/
def separate (test : Char → Char → List Char → Bool) : List Char → List Char
  | c :: d :: rest =>
    if test c d rest then c :: '-' :: d :: separate test rest else c :: separate test (d :: rest)
  | cs => cs

/-- A small letter or an ASCII digit before a capital. -/
def endsSmall (c d : Char) (_ : List Char) : Bool := (isSmall c || isAsciiDigit c) && isCapital d

/-- Two capitals before a small letter. -/
def endsCapitals (c d : Char) (rest : List Char) : Bool :=
  isCapital c && isCapital d && (rest.head?.map isSmall).getD false

/-- Words in lower case joined by hyphens. The ends of words in small letters are found first, then
the ends of words in capitals. -/
def toKebab (s : String) : String :=
  lower (String.ofList (separate endsCapitals (separate endsSmall s.toList)))

/-- ASCII letters, digits and the underscore. -/
def isWordChar (c : Char) : Bool := isAsciiLetter c || isAsciiDigit c || c == '_'

/-- Every other character replaced by an underscore, and those at the ends taken away. -/
def cleaned (cs : List Char) : List Char :=
  trim (· == '_') ((trim isBlank cs).map fun c => if isWordChar c then c else '_')

/-- An identifier made from a text: joined words, with an underscore before a leading digit. -/
def identifierChars (cs : List Char) : List Char :=
  let body := cleaned cs
  let name := if body.isEmpty then "value".toList else camelChars body
  match name with
  | c :: rest => if isDigitLike c then '_' :: c :: rest else c :: rest
  | [] => []

/-- An identifier made from a text. -/
def toIdentifier (s : String) : String := String.ofList (identifierChars s.toList)

/-- Is the text the identifier that is made from it? -/
def isIdentifier (s : String) : Bool := toIdentifier s == s

/-- The ASCII letters and digits of a text. -/
def sanitize (s : String) : String :=
  String.ofList (s.toList.filter fun c => isAsciiLetter c || isAsciiDigit c)

end SpecForge.Name
