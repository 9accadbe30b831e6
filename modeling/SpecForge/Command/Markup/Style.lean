import SpecForge.Decimal.Numeral
import SpecForge.Failure
import SpecForge.Text.Blank
import SpecForge.Text.Case
import SpecForge.Text.Digit
import SpecForge.Text.Split

/-!
# Styles

A style is described by words: attributes, each of which may be denied, a color, a color of the
background, and the target of a link. Every description of a style has one normal form; a text that
describes none is its own normal form in lower case.

The colors of a terminal that have a name are the sixteen that every terminal has, and those of the
table of two hundred and fifty-six.
-/

namespace SpecForge.Command.Markup

/-! ## Names of colors -/

/-- The colors that every terminal has, without their bright forms. -/
def basicColors : List String :=
  ["black", "red", "green", "yellow", "blue", "magenta", "cyan", "white"]

/-- The shades of grey, in hundredths of white. -/
def greyShades : List Nat :=
  [0, 3, 7, 11, 15, 19, 23, 27, 30, 35, 37, 39, 42, 46, 50, 53, 54, 58, 62, 63, 66, 69, 70, 74, 78,
    82, 84, 85, 89, 93, 100]

/-- The names that begin with the first half of the alphabet. -/
def tableColorsToL : List String :=
  ["aquamarine1", "aquamarine3", "blue1", "blue3", "blue_violet", "cadet_blue", "chartreuse1",
    "chartreuse2", "chartreuse3", "chartreuse4", "cornflower_blue", "cornsilk1", "cyan1", "cyan2",
    "cyan3", "dark_blue", "dark_cyan", "dark_goldenrod", "dark_green", "dark_khaki", "dark_magenta",
    "dark_olive_green1", "dark_olive_green2", "dark_olive_green3", "dark_orange", "dark_orange3",
    "dark_red", "dark_sea_green", "dark_sea_green1", "dark_sea_green2", "dark_sea_green3",
    "dark_sea_green4", "dark_slate_gray1", "dark_slate_gray2", "dark_slate_gray3", "dark_turquoise",
    "dark_violet", "deep_pink1", "deep_pink2", "deep_pink3", "deep_pink4", "deep_sky_blue1",
    "deep_sky_blue2", "deep_sky_blue3", "deep_sky_blue4", "dodger_blue1", "dodger_blue2",
    "dodger_blue3", "gold1", "gold3", "green1", "green3", "green4", "green_yellow", "honeydew2",
    "hot_pink", "hot_pink2", "hot_pink3", "indian_red", "indian_red1", "khaki1", "khaki3",
    "light_coral", "light_cyan1", "light_cyan3", "light_goldenrod1", "light_goldenrod2",
    "light_goldenrod3", "light_green", "light_pink1", "light_pink3", "light_pink4", "light_salmon1",
    "light_salmon3", "light_sea_green", "light_sky_blue1", "light_sky_blue3", "light_slate_blue",
    "light_slate_gray", "light_slate_grey", "light_steel_blue", "light_steel_blue1",
    "light_steel_blue3", "light_yellow3"]

/-- The names that begin with the second half of the alphabet. -/
def tableColorsFromM : List String :=
  ["magenta1", "magenta2", "magenta3", "medium_orchid", "medium_orchid1", "medium_orchid3",
    "medium_purple", "medium_purple1", "medium_purple2", "medium_purple3", "medium_purple4",
    "medium_spring_green", "medium_turquoise", "medium_violet_red", "misty_rose1", "misty_rose3",
    "navajo_white1", "navajo_white3", "navy_blue", "orange1", "orange3", "orange4", "orange_red1",
    "orchid", "orchid1", "orchid2", "pale_green1", "pale_green3", "pale_turquoise1",
    "pale_turquoise4", "pale_violet_red1", "pink1", "pink3", "plum1", "plum2", "plum3", "plum4",
    "purple", "purple3", "purple4", "red1", "red3", "rosy_brown", "royal_blue1", "salmon1",
    "sandy_brown", "sea_green1", "sea_green2", "sea_green3", "sky_blue1", "sky_blue2", "sky_blue3",
    "slate_blue1", "slate_blue3", "spring_green1", "spring_green2", "spring_green3",
    "spring_green4", "steel_blue", "steel_blue1", "steel_blue3", "tan", "thistle1", "thistle3",
    "turquoise2", "turquoise4", "violet", "wheat1", "wheat4", "yellow1", "yellow2", "yellow3",
    "yellow4"]

/-- All names of colors. -/
def colorNames : List String :=
  "default" :: basicColors ++ basicColors.map ("bright_" ++ ·) ++ tableColorsToL ++
    tableColorsFromM ++ greyShades.flatMap fun n => [s!"grey{n}", s!"gray{n}"]

/-! ## Descriptions -/

/-- The attributes in the order of the normal form. -/
def attributes : List String :=
  ["bold", "dim", "italic", "underline", "blink", "blink2", "reverse", "conceal", "strike",
    "underline2", "frame", "encircle", "overline"]

/-- The short names of attributes. -/
def shortNames : List (String × String) :=
  [("b", "bold"), ("d", "dim"), ("i", "italic"), ("u", "underline"), ("r", "reverse"),
    ("c", "conceal"), ("s", "strike"), ("uu", "underline2"), ("o", "overline")]

/-- The attribute with a long or short name. -/
def attribute? (word : String) : Option String :=
  (shortNames.lookup word).orElse fun _ => attributes.find? (· == word)

/-- A style. The attributes that were set last stand first. -/
structure Style where
  attributes : List (String × Bool)
  color : Option String
  background : Option String
  link : Option String

namespace Style

/-- The style that changes nothing. -/
def none : Style := ⟨[], .none, .none, .none⟩

/-- The words for an attribute. -/
def attributeText? (s : Style) (name : String) : Option String :=
  (s.attributes.lookup name).map fun isSet => if isSet then name else "not " ++ name

/-- The normal form. -/
def text (s : Style) : String :=
  let words := Markup.attributes.filterMap s.attributeText? ++ s.color.toList ++
    (s.background.map ("on " ++ ·)).toList ++ (s.link.map ("link " ++ ·)).toList
  if words.isEmpty then "none" else " ".intercalate words

end Style

/-- Is the number one of the two hundred and fifty-six that a byte has? -/
def isByte (n : Nat) : Bool := n ≤ 255

/-- The number that digits of any script write; there must be some. -/
def component (s : String) : Outcome Nat :=
  match s.toList.mapM Text.decimalValue? with
  | some (d :: ds) => .ok (Decimal.ofDigits 10 (d :: ds))
  | _ => .error .unreadNumber

/-- Does the text give the three parts of a color? Three numbers must be written. -/
def isTriple (s : String) : Outcome Bool :=
  let parts := Text.split ',' s
  if parts.length != 3 || !s.toList.all (fun c => c == ',' || Text.isDecimal c) then .ok false
  else do return (← parts.mapM component).all isByte

/-- Is the text, in lower case, a color: a name, six hexadecimal digits, the number of a color, or
its three parts? -/
def isColor (s : String) : Outcome Bool :=
  if colorNames.contains s then .ok true
  else match s.toList, Text.between? "color(" ")" s, Text.between? "rgb(" ")" s with
    | '#' :: digits, _, _ => .ok (digits.length == 6 && digits.all Text.isHex)
    | _, some inner, _ =>
      let ds := inner.toList.filterMap Text.asciiDigit?
      .ok (ds.length == inner.length && 1 ≤ ds.length && ds.length ≤ 3 &&
        isByte (Decimal.ofDigits 10 ds))
    | _, _, some inner => isTriple inner
    | _, _, _ => .ok false

/-- The color that a word names, in lower case. -/
def color? (word : String) : Outcome (Option String) := do
  let name := Text.lower word
  return if ← isColor name then some name else none

/-- The style that words describe, after the words before them. -/
def readStyle (s : Style) : List String → Outcome (Option Style)
  | [] => .ok (some s)
  | word :: rest =>
    match Text.lower word, rest with
    | "on", name :: rest => do
      match ← color? name with
      | some c => readStyle { s with background := some c } rest
      | none => return none
    | "not", name :: rest =>
      match attribute? name with
      | some a => readStyle { s with attributes := (a, false) :: s.attributes } rest
      | none => .ok none
    | "link", target :: rest => readStyle { s with link := some target } rest
    | name, rest =>
      match attribute? name with
      | some a => readStyle { s with attributes := (a, true) :: s.attributes } rest
      | none => do
        match ← color? name with
        | some c => readStyle { s with color := some c } rest
        | none => return none

/-- The normal form of a description. -/
def normalForm (s : String) : Outcome String := do
  if Text.strip s == "none" then return "none"
  match ← readStyle .none (Text.words s) with
  | some style => return style.text
  | none => return Text.lower (Text.strip s)

end SpecForge.Command.Markup
