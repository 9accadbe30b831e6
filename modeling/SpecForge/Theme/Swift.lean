import SpecForge.Lines
import SpecForge.Name
import SpecForge.Theme.Basic
import SpecForge.Theme.Color

/-!
# Themes in Swift

A theme becomes an enumeration without cases that holds one inner enumeration per group, the type
scale among them.
-/

namespace SpecForge.Theme.Swift

/-- A color: by its components, or by name from the assets. -/
def color (value : String) : String :=
  match Color.ofHex? value with
  | some c =>
    let part (n : Nat) : String := Decimal.threePlaces n 255
    s!"Color(red: {part c.red}, green: {part c.green}, blue: {part c.blue}, " ++
      s!"opacity: {part c.alpha})"
  | none => s!"Color({quoted value})"

/-- The weights that have a name. -/
def weightNames : List (String × String) :=
  [("thin", ".thin"), ("extralight", ".ultraLight"), ("ultralight", ".ultraLight"),
    ("light", ".light"), ("normal", ".regular"), ("regular", ".regular"), ("medium", ".medium"),
    ("semibold", ".semibold"), ("bold", ".bold"), ("extrabold", ".heavy"), ("heavy", ".heavy"),
    ("black", ".black")]

/-- The weights by hundreds, from one to nine. -/
def weightHundreds : List String :=
  [".ultraLight", ".thin", ".light", ".regular", ".medium", ".semibold", ".bold", ".heavy",
    ".black"]

/-- The weight of a number: rounded down to a hundred, between one hundred and nine hundred. -/
def numericWeight (n : Int) : String :=
  weightHundreds.getD ((min (max (n.fdiv 100) 1) 9).toNat - 1) ".regular"

/-- The weight of a font. -/
def weight (w : Weight) : Outcome String :=
  match w with
  | .number n => (Weight.whole n).map numericWeight
  | .named s => .ok ((weightNames.lookup (Text.lower s)).getD ".regular")

/-- A constant of the code. -/
structure Constant where
  doc : Lines
  name : String
  type : Option String
  value : String

/-- The lines of a constant. -/
def Constant.lines (c : Constant) : Lines :=
  let typeMark := match c.type with
    | some type => s!": {type}"
    | none => ""
  c.doc ++ [s!"public static let {c.name}{typeMark} = {c.value}"]

/-- An inner enumeration. -/
structure Section where
  name : String
  constants : List Constant

/-- The lines of an inner enumeration. -/
def Section.lines (s : Section) : Lines :=
  [s!"    // MARK: - {s.name}", s!"    public enum {s.name} \x7b"] ++
    Lines.indent (s.constants.flatMap Constant.lines) 2 ++ ["    \x7d", ""]

/-- A color. -/
def colorConstant (t : ValueToken) : Constant :=
  ⟨Lines.docComment .slashes t.description, Name.toIdentifier t.name, none, color t.value⟩

/-- A shadow. -/
def shadowConstant (t : ValueToken) : Constant :=
  ⟨Lines.docComment .slashes t.description, Name.toIdentifier t.name, none, quoted t.value⟩

/-- A font. -/
def familyConstant (t : FontFamily) : Constant :=
  ⟨[], Name.toIdentifier t.name, none, quoted t.value⟩

/-- A dimension without its unit. -/
def dimensionConstant (t : DimensionToken) : Outcome Constant := do
  return ⟨[], Name.toIdentifier t.name, some "CGFloat", ← t.value.spelled⟩

/-- The weight of a font. -/
def weightConstant (t : FontWeight) : Outcome Constant := do
  return ⟨[], Name.toIdentifier t.name, some "Font.Weight", ← weight t.value⟩

/-- An entry of the type scale. -/
def scaleConstant (entry : String × DimensionToken) : Constant :=
  ⟨[], entry.1, none, s!"Font.system(size: FontSizes.{Name.toIdentifier entry.2.name})"⟩

/-- A section, unless it is empty. -/
def nonEmptySection (name : String) (constants : List Constant) : List Section :=
  if constants.isEmpty then [] else [⟨name, constants⟩]

/-- The sections of a theme. -/
def sections (theme : Theme) : Outcome (List Section) := do
  let t := theme.typography
  let sizes ← t.fontSizes.mapM dimensionConstant
  let weights ← t.fontWeights.mapM weightConstant
  let heights ← t.lineHeights.mapM dimensionConstant
  let distances ← t.letterSpacing.mapM dimensionConstant
  let spacing ← theme.spacing.mapM dimensionConstant
  let radii ← theme.borderRadius.mapM dimensionConstant
  let breakpoints ← theme.breakpoints.mapM dimensionConstant
  return nonEmptySection "Colors" (theme.colors.map colorConstant) ++
    nonEmptySection "FontFamilies" (t.fontFamilies.map familyConstant) ++
    nonEmptySection "FontSizes" sizes ++
    nonEmptySection "FontWeights" weights ++
    nonEmptySection "LineHeights" heights ++
    nonEmptySection "LetterSpacing" distances ++
    nonEmptySection "Spacing" spacing ++
    nonEmptySection "BorderRadius" radii ++
    nonEmptySection "Shadows" (theme.shadows.map shadowConstant) ++
    nonEmptySection "Breakpoints" breakpoints ++
    nonEmptySection "Typography" (theme.typeScale.map scaleConstant)

/-- The file of a theme. -/
def file (theme : Theme) (source : String) : Outcome Lines := do
  let parts ← sections theme
  return Lines.header source ++
    ["import SwiftUI",
      "",
      s!"/// Design system theme generated from {source}",
      s!"public enum {theme.name} \x7b",
      ""] ++
    parts.flatMap Section.lines ++ ["\x7d", ""]

end SpecForge.Theme.Swift
