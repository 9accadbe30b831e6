import SpecForge.Document.Access
import SpecForge.Name
import SpecForge.Theme.Basic

/-!
# Themes from design tokens

Every entry of a group becomes one token, named by its key in camel case. An entry is a bare value,
or an object with the value and perhaps a description.
-/

namespace SpecForge.Theme

/-- The entries of a group; a group that is missing or null has none. -/
def group (tokens : Value) (key : String) : Outcome (List (Value × Value)) :=
  match ((tokens.member? key).getD .null).content with
  | .null => .ok []
  | .object ms => .ok ms
  | _ => .error (.spec (.tokenGroup key))

/-- The value and the description of an entry. -/
def entryParts (entry : Value) : Outcome (Value × Value) :=
  match entry.content with
  | .object ms => match Value.lookup "value" ms with
    | some v => .ok (v, (Value.lookup "description" ms).getD .null)
    | none => do throw (.spec (.tokenValue (← entry.spelled)))
  | _ => .ok (entry, .null)

/-- The name of a token. -/
def tokenName (key : Value) : Outcome String :=
  match key with
  | .str s => .ok (Name.toCamel s)
  | _ => .error .unfit

/-- A description, which is a text if it is there. -/
def descriptionOf (v : Value) : Outcome (Option String) :=
  checked (Shape.under "description" (Shape.optional Shape.text v))

/-- A token that is kept as it is written. -/
def valueToken (key entry : Value) : Outcome ValueToken := do
  let (value, description) ← entryParts entry
  let name ← tokenName key
  let text ← value.spelled
  return ⟨name, text, ← descriptionOf description⟩

/-- A token with a number and a unit. -/
def dimensionToken (key entry : Value) : Outcome DimensionToken := do
  let (value, description) ← entryParts entry
  let q ← Quantity.ofValue value
  let name ← tokenName key
  return ⟨name, q.number, q.unit, ← descriptionOf description⟩

/-- A font with the fonts to fall back on. -/
def fontFamily (key entry : Value) : Outcome FontFamily := do
  let fallback := ((entry.member? "fallback").getD .null).orElse (.list [])
  let (value, _) ← entryParts entry
  let name ← tokenName key
  let text ← value.spelled
  let fallback ← checked (Shape.under "fallback" (Shape.sequence Shape.text fallback))
  return ⟨name, text, fallback⟩

/-- The number that digits of any script write, white space around them aside. Digits that are not
decimal have no value, and there must not be too many. -/
def digitsNumber (cs : List Char) : Outcome Int :=
  match (Text.trim Text.isWhiteSpace cs).mapM Text.decimalValue? with
  | some ds =>
    if Decimal.digitLimit < ds.length then .error .unreadNumber
    else .ok ((Decimal.ofDigits 10 ds : Nat) : Int)
  | none => .error .unreadNumber

/-- A text of digits is a number. -/
def weightValue (v : Value) : Outcome Value :=
  match v with
  | .str s =>
    let cs := Text.trim Text.isBlank s.toList
    if !cs.isEmpty && cs.all Text.isDigitLike then (digitsNumber s.toList).map .int else .ok v
  | v => .ok v

/-- The weight of a font. -/
def fontWeight (key entry : Value) : Outcome FontWeight := do
  let (value, _) ← entryParts entry
  let value ← weightValue value
  let name ← tokenName key
  FontWeight.check name value

/-- The tokens of a group. -/
def tokensOf {α : Type} (read : Value → Value → Outcome α) (tokens : Value) (key : String) :
    Outcome (List α) := do
  (← group tokens key).mapM fun m => read m.1 m.2

/-- The theme of a document of design tokens. -/
def ofTokens (tokens : Value) (name : String) : Outcome Theme := do
  if !tokens.isObject then throw (.spec .tokensShape)
  let typography := Value.object (← group tokens "typography")
  let colors ← tokensOf valueToken tokens "colors"
  let fontFamilies ← tokensOf fontFamily typography "fontFamilies"
  let fontSizes ← tokensOf dimensionToken typography "fontSizes"
  let fontWeights ← tokensOf fontWeight typography "fontWeights"
  let lineHeights ← tokensOf dimensionToken typography "lineHeights"
  let letterSpacing ← tokensOf dimensionToken typography "letterSpacing"
  let spacing ← tokensOf dimensionToken tokens "spacing"
  let borderRadius ← tokensOf dimensionToken tokens "borderRadius"
  let shadows ← tokensOf valueToken tokens "shadows"
  let breakpoints ← tokensOf dimensionToken tokens "breakpoints"
  return {
    name := name
    colors := colors
    typography := ⟨fontFamilies, fontSizes, fontWeights, lineHeights, letterSpacing⟩
    spacing := spacing
    borderRadius := borderRadius
    shadows := shadows
    breakpoints := breakpoints }

end SpecForge.Theme
