import SpecForge.Lines
import SpecForge.Name
import SpecForge.Theme.Basic
import SpecForge.Theme.Color

/-!
# Themes in Kotlin

A theme becomes an object with one inner object per group, and a `Typography` that refers to the
font sizes of the type scale.
-/

namespace SpecForge.Theme.Kotlin

/-- The name of a constant. -/
def constantName (name : String) : String := Name.capitalize (Name.toIdentifier name)

/-- A color literal, the opaque byte first. -/
def color (value : String) : String :=
  match Color.ofHex? value with
  | some c =>
    "Color(0x" ++ Color.hexByte c.alpha ++ Color.hexByte c.red ++ Color.hexByte c.green ++
      Color.hexByte c.blue ++ ")"
  | none => "Color.Unspecified"

/-- The weights that have a name. -/
def weightNames : List (String × String) :=
  [("thin", "FontWeight.Thin"), ("extralight", "FontWeight.ExtraLight"),
    ("light", "FontWeight.Light"), ("normal", "FontWeight.Normal"),
    ("regular", "FontWeight.Normal"), ("medium", "FontWeight.Medium"),
    ("semibold", "FontWeight.SemiBold"), ("bold", "FontWeight.Bold"),
    ("extrabold", "FontWeight.ExtraBold"), ("black", "FontWeight.Black")]

/-- The weight of a font. -/
def weight (w : Weight) : Outcome String :=
  match w with
  | .number n => do return s!"FontWeight({← (Decimal.Number.int (← Weight.whole n)).spelled})"
  | .named s => .ok ((weightNames.lookup (Text.lower s)).getD "FontWeight.Normal")

/-- A constant of the code. -/
structure Constant where
  doc : Lines
  keyword : String
  name : String
  value : String

/-- The lines of a constant. -/
def Constant.lines (c : Constant) : Lines := c.doc ++ [s!"{c.keyword} {c.name} = {c.value}"]

/-- An inner object with the comment above it. -/
structure Section where
  comment : Lines
  name : String
  constants : List Constant

/-- The lines of an inner object. -/
def Section.lines (s : Section) : Lines :=
  s.comment ++ [s!"    object {s.name} \x7b"] ++
    Lines.indent (s.constants.flatMap Constant.lines) 2 ++ ["    \x7d", ""]

/-- A color. -/
def colorConstant (t : ValueToken) : Constant :=
  ⟨Lines.docComment .block t.description, "val", constantName t.name, color t.value⟩

/-- A shadow. -/
def shadowConstant (t : ValueToken) : Constant :=
  ⟨Lines.docComment .block t.description, "const val", constantName t.name, quoted t.value⟩

/-- A font. -/
def familyConstant (t : FontFamily) : Constant :=
  ⟨[], "const val", constantName t.name, quoted t.value⟩

/-- A dimension in one of the two units of the platform. -/
def dimensionConstant (unit : String) (t : DimensionToken) : Outcome Constant := do
  return ⟨[], "val", constantName t.name, (← t.value.spelled) ++ "." ++ unit⟩

/-- The weight of a font. -/
def weightConstant (t : FontWeight) : Outcome Constant := do
  return ⟨[], "val", constantName t.name, ← weight t.value⟩

/-- A section, unless it is empty. -/
def nonEmptySection (comment : Lines) (name : String) (constants : List Constant) : List Section :=
  if constants.isEmpty then [] else [⟨comment, name, constants⟩]

/-- The sections of typography. -/
def typographySections (t : Typography) : Outcome (List Section) := do
  let sizes ← t.fontSizes.mapM (dimensionConstant "sp")
  let weights ← t.fontWeights.mapM weightConstant
  let heights ← t.lineHeights.mapM (dimensionConstant "sp")
  let distances ← t.letterSpacing.mapM (dimensionConstant "sp")
  return nonEmptySection [] "FontFamilies" (t.fontFamilies.map familyConstant) ++
    nonEmptySection [] "FontSizes" sizes ++
    nonEmptySection [] "FontWeights" weights ++
    nonEmptySection [] "LineHeights" heights ++
    nonEmptySection [] "LetterSpacing" distances

/-- The comment above the sections of typography. -/
def typographyComment (t : Typography) : Lines :=
  if t.fontFamilies.isEmpty && t.fontSizes.isEmpty && t.fontWeights.isEmpty then []
  else ["    // Typography"]

/-- A section with its own comment. -/
def titledSection (title name : String) (constants : List Constant) : List Section :=
  nonEmptySection [s!"    // {title}"] name constants

/-- An entry of the type scale. -/
def scaleEntry (theme : Theme) (entry : String × DimensionToken) : String :=
  s!"    {entry.1} = TextStyle(fontSize = {theme.name}.FontSizes.{constantName entry.2.name})"

/-- The type scale, if there are font sizes. -/
def materialTypography (theme : Theme) : Lines :=
  if theme.typography.fontSizes.isEmpty then []
  else
    ["/**",
      " * Material 3 Typography configuration",
      " */",
      s!"val {theme.name}Typography = Typography("] ++
    Lines.commaSeparated (theme.typeScale.map (scaleEntry theme)) ++ [")", ""]

/-- The beginning of the file after its header. -/
def opening (theme : Theme) (source : String) : Lines :=
  ["import androidx.compose.ui.graphics.Color",
    "import androidx.compose.ui.unit.dp",
    "import androidx.compose.ui.unit.sp",
    "import androidx.compose.material3.Typography",
    "import androidx.compose.ui.text.TextStyle",
    "import androidx.compose.ui.text.font.FontWeight",
    "",
    "/**",
    s!" * Design system theme generated from {source}",
    " */",
    s!"object {theme.name} \x7b",
    ""]

/-- The sections after those of typography. -/
def layoutSections (theme : Theme) : Outcome (List Section) := do
  let spacing ← theme.spacing.mapM (dimensionConstant "dp")
  let radii ← theme.borderRadius.mapM (dimensionConstant "dp")
  let breakpoints ← theme.breakpoints.mapM (dimensionConstant "dp")
  return titledSection "Spacing" "Spacing" spacing ++
    titledSection "Border Radius" "BorderRadius" radii ++
    titledSection "Shadows" "Shadows" (theme.shadows.map shadowConstant) ++
    titledSection "Breakpoints" "Breakpoints" breakpoints

/-- The file of a theme. -/
def file (theme : Theme) (source : String) : Outcome Lines := do
  let typography ← typographySections theme.typography
  let layout ← layoutSections theme
  return Lines.header source ++ opening theme source ++
    (titledSection "Colors" "Colors" (theme.colors.map colorConstant)).flatMap Section.lines ++
    typographyComment theme.typography ++ typography.flatMap Section.lines ++
    layout.flatMap Section.lines ++ ["\x7d", ""] ++ materialTypography theme

end SpecForge.Theme.Kotlin
