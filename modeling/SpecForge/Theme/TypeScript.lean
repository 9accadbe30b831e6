import SpecForge.Lines
import SpecForge.Name
import SpecForge.Theme.Basic

/-!
# Themes in TypeScript

A theme becomes a constant object with one member per group, types for the keys of some groups, and
a function that gives the tokens as variables of a style sheet.
-/

namespace SpecForge.Theme.TypeScript

/-- An entry of a group. -/
structure Entry where
  name : String
  value : String
  description : Option String

/-- A key in an object. -/
def key (name : String) : String := if Name.isIdentifier name then name else singleQuoted name

/-- The access to a member of an object. -/
def access (name : String) : String :=
  if Name.isIdentifier name then "." ++ name else "[" ++ singleQuoted name ++ "]"

/-- Two blanks for every level. -/
def pad (level : Nat) : String := String.ofList (List.replicate (2 * level) ' ')

/-- The line of an entry without the comma. -/
def Entry.line (level : Nat) (e : Entry) : String := s!"{pad (level + 1)}{key e.name}: {e.value}"

/-- The comment above an entry. -/
def Entry.comment (level : Nat) (e : Entry) : Lines :=
  (Lines.docComment .block e.description).map fun line => pad (level + 1) ++ line

/-- The entries with commas between them. -/
def entryLines (level : Nat) : List Entry → Lines
  | [] => []
  | [e] => e.comment level ++ [e.line level]
  | e :: rest => e.comment level ++ [e.line level ++ ","] ++ entryLines level rest

/-- A group at a level; an empty group is left out. -/
def groupLines (level : Nat) (name : String) (entries : List Entry) : Lines :=
  if entries.isEmpty then []
  else [s!"{pad level}{name}: \x7b"] ++ entryLines level entries ++ [s!"{pad level}\x7d,"]

/-- A group of the theme with an empty line after it; an empty group is left out. -/
def outerGroup (name : String) (entries : List Entry) : Lines :=
  if entries.isEmpty then [] else groupLines 1 name entries ++ [""]

/-- A token that is kept as it is written. -/
def valueEntry (t : ValueToken) : Entry := ⟨t.name, singleQuoted t.value, t.description⟩

/-- A dimension with its unit. -/
def dimensionEntry (t : DimensionToken) : Outcome Entry := do
  return ⟨t.name, singleQuoted (← t.css), none⟩

/-- A font with those to fall back on. -/
def familyEntry (t : FontFamily) : Entry :=
  ⟨t.name, singleQuoted (", ".intercalate (t.value :: t.fallback)), none⟩

/-- The weight of a font. -/
def weightEntry (t : FontWeight) : Outcome Entry :=
  match t.value with
  | .number n => do return ⟨t.name, ← n.spelled, none⟩
  | .named s => .ok ⟨t.name, singleQuoted s, none⟩

/-- The groups of typography. -/
def typographyLines (t : Typography) : Outcome Lines := do
  let sizes ← t.fontSizes.mapM dimensionEntry
  let weights ← t.fontWeights.mapM weightEntry
  let heights ← t.lineHeights.mapM dimensionEntry
  let distances ← t.letterSpacing.mapM dimensionEntry
  if t.isEmpty then return []
  else
    return ["  typography: \x7b"] ++
      groupLines 2 "fontFamilies" (t.fontFamilies.map familyEntry) ++
      groupLines 2 "fontSizes" sizes ++ groupLines 2 "fontWeights" weights ++
      groupLines 2 "lineHeights" heights ++ groupLines 2 "letterSpacing" distances ++
      ["  \x7d,", ""]

/-- The name of the constant object, which is also the name of the file. -/
def constantName (theme : Theme) : String := Text.lower theme.name

/-- The constant object. -/
def objectLines (theme : Theme) : Outcome Lines := do
  let typography ← typographyLines theme.typography
  let spacing ← theme.spacing.mapM dimensionEntry
  let radii ← theme.borderRadius.mapM dimensionEntry
  let breakpoints ← theme.breakpoints.mapM dimensionEntry
  return [s!"export const {constantName theme} = \x7b"] ++
    outerGroup "colors" (theme.colors.map valueEntry) ++ typography ++
    outerGroup "spacing" spacing ++ outerGroup "borderRadius" radii ++
    outerGroup "shadows" (theme.shadows.map valueEntry) ++
    outerGroup "breakpoints" breakpoints ++ ["\x7d as const;", ""]

/-- The type of the keys of a group, unless the group is empty. -/
def tokenType (theme : Theme) (isEmpty : Bool) (type group : String) : Lines :=
  if isEmpty then []
  else [s!"export type {type} = keyof {theme.name}Theme['{group}'];"]

/-- The types of the theme. -/
def typeLines (theme : Theme) : Lines :=
  ["// TypeScript type definitions",
    s!"export type {theme.name}Theme = typeof {constantName theme};",
    ""] ++
    tokenType theme theme.colors.isEmpty "ColorToken" "colors" ++
    tokenType theme theme.spacing.isEmpty "SpacingToken" "spacing" ++
    tokenType theme theme.borderRadius.isEmpty "BorderRadiusToken" "borderRadius" ++ [""]

/-- A variable of a style sheet: its name, and the group and the name of the token it shows. -/
structure Variable where
  name : String
  group : String
  token : String

/-- The variable of a token. -/
def variableOf (kind group token : String) : Variable :=
  ⟨s!"--{kind}-{Name.toKebab token}", group, token⟩

/-- The variables of a theme. -/
def styleVariables (theme : Theme) : List Variable :=
  theme.colors.map (fun t => variableOf "color" "colors" t.name) ++
    theme.spacing.map (fun t => variableOf "spacing" "spacing" t.name) ++
    theme.borderRadius.map (fun t => variableOf "border-radius" "borderRadius" t.name)

/-- The line of a variable. -/
def Variable.line (theme : Theme) (v : Variable) : String :=
  s!"    {singleQuoted v.name}: {constantName theme}.{v.group}{access v.token},"

/-- The function that gives the variables. -/
def variableLines (theme : Theme) : Lines :=
  ["/**",
    " * Export theme as CSS custom properties",
    " */",
    s!"export function {constantName theme}ToCSSVariables(): Record<string, string> \x7b",
    "  return \x7b"] ++
    (styleVariables theme).map (Variable.line theme) ++ ["  \x7d;", "\x7d", ""]

/-- The function that sets the variables in a document, if there are colors. -/
def hookLines (theme : Theme) : Lines :=
  if theme.colors.isEmpty then []
  else
    ["/**",
      " * React hook to inject theme CSS variables",
      " */",
      s!"export function use{theme.name}Theme() \x7b",
      "  if (typeof document !== 'undefined') \x7b",
      s!"    const vars = {constantName theme}ToCSSVariables();",
      "    Object.entries(vars).forEach(([key, value]) => \x7b",
      "      document.documentElement.style.setProperty(key, value);",
      "    \x7d);",
      "  \x7d",
      "\x7d",
      ""]

/-- The file of a theme. -/
def file (theme : Theme) (source : String) : Outcome Lines := do
  let object ← objectLines theme
  return Lines.header source ++
    ["",
      "/**",
      s!" * Design system theme generated from {source}",
      " */"] ++
    object ++ typeLines theme ++ variableLines theme ++ hookLines theme

end SpecForge.Theme.TypeScript
