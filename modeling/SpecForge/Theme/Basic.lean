import SpecForge.Model.Basic
import SpecForge.Quantity
import SpecForge.Text.Case

/-!
# Themes

The normalized form of a document of design tokens: colors, typography, spacing and the like, each a
list of tokens with a name. Dimensions have a number and a unit, colors and shadows stay as written.
-/

namespace SpecForge

/-- A token that is kept as it is written. -/
structure ValueToken where
  name : String
  value : String
  description : Option String

/-- A token with a number and a unit. -/
structure DimensionToken where
  name : String
  value : Decimal.Number
  unit : String
  description : Option String

/-- A font with the fonts to fall back on. -/
structure FontFamily where
  name : String
  value : String
  fallback : List String

/-- The weight of a font, by number or by name. -/
inductive Weight where
  | number (n : Decimal.Number)
  | named (s : String)

/-- A token for the weight of a font. -/
structure FontWeight where
  name : String
  value : Weight

/-- The tokens of typography. -/
structure Typography where
  fontFamilies : List FontFamily
  fontSizes : List DimensionToken
  fontWeights : List FontWeight
  lineHeights : List DimensionToken
  letterSpacing : List DimensionToken

/-- A theme. -/
structure Theme where
  name : String
  colors : List ValueToken
  typography : Typography
  spacing : List DimensionToken
  borderRadius : List DimensionToken
  shadows : List ValueToken
  breakpoints : List DimensionToken

/-- The number followed by the unit, if the number can be spelled. -/
def DimensionToken.css (t : DimensionToken) : Outcome String :=
  t.value.spelled.map fun text => text ++ t.unit

/-- Are there no tokens of typography at all? -/
def Typography.isEmpty (t : Typography) : Bool :=
  t.fontFamilies.isEmpty && t.fontSizes.isEmpty && t.fontWeights.isEmpty &&
    t.lineHeights.isEmpty && t.letterSpacing.isEmpty

namespace Theme

/-- The names of the type scale, from the largest to the smallest. -/
def scaleNames : List String :=
  ["displayLarge", "displayMedium", "displaySmall", "headlineLarge", "headlineMedium",
    "headlineSmall", "titleLarge", "titleMedium", "titleSmall", "bodyLarge", "bodyMedium",
    "bodySmall", "labelLarge", "labelMedium", "labelSmall"]

/-- The last font size that has a name, letter case aside. -/
def sizeNamed? (sizes : List DimensionToken) (name : String) : Option DimensionToken :=
  sizes.reverse.find? fun size => Text.lower size.name == Text.lower name

/-- The names of the type scale that have a font size, each with that size. -/
def typeScale (t : Theme) : List (String × DimensionToken) :=
  scaleNames.filterMap fun name => (sizeNamed? t.typography.fontSizes name).map (name, ·)

end Theme

/-- A weight given as a value: a number, or a text that names one. Bytes may encode a text or write
a number. -/
def Weight.ofValue : Shape.Reader Weight
  | .str s => .ok (.named s)
  | .bytes data => match Value.bytesText? data with
    | some s => .ok (match Decimal.Tolerant.number? s with
      | some n => .number n
      | none => .named s)
    | none => Shape.under "int" (Shape.here .unreadWhole)
  | v => match v.number? with
    | some n => .ok (.number n)
    | none => Shape.under "int" (Shape.here .whole)

/-- A weight token of a checked value. -/
def FontWeight.check (name : String) (value : Value) : Outcome FontWeight :=
  checked do
    let weight ← Shape.under "value" (Weight.ofValue value)
    return ⟨name, weight⟩

/-- The whole number of hundredths and the like that a weight is: a number that is not finite has
none. -/
def Weight.whole (n : Decimal.Number) : Outcome Int :=
  match n with
  | .int n => .ok n
  | .float .nan => .error .unreadNumber
  | .float x => match x.truncate? with
    | some n => .ok n
    | none => .error .overflow

end SpecForge
