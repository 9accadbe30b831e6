import SpecForge.Command.Markup.Literal
import SpecForge.Command.Markup.Style
import SpecForge.Text.WordChar

/-!
# Markup

A text that is shown while a command works may hold tags in brackets. A tag opens a style or, after
a slash, closes the style of that name that was opened last; a slash alone closes the style that was
opened last of all. A style that is not open cannot be closed. A backslash takes the meaning from a
bracket, and another backslash takes the meaning from a backslash. A tag that begins with an at sign
names an action, and its parameters must be readable when it is closed.
-/

namespace SpecForge.Command.Markup

/-- May a tag begin with the character? -/
def isTagStart (c : Char) : Bool := ('a' ≤ c && c ≤ 'z') || c == '#' || c == '/' || c == '@'

/-- What stands in the tag that a text begins with. A tag holds no further bracket. -/
def tag? : List Char → Option (List Char)
  | '[' :: c :: rest =>
    let isInside (d : Char) : Bool := d != '[' && d != ']'
    if isTagStart c && (rest.dropWhile isInside).head? == some ']' then
      some (c :: rest.takeWhile isInside)
    else none
  | _ => none

/-- The tags in a text, from left to right. The first number counts the characters that still belong
to the last tag; the second argument says whether an odd number of backslashes stands before. -/
def tagsFrom : Nat → Bool → List Char → List (List Char)
  | _, _, [] => []
  | skip + 1, _, _ :: cs => tagsFrom skip false cs
  | 0, isEscaped, c :: cs =>
    if c == '\\' then tagsFrom 0 (!isEscaped) cs
    else match tag? (c :: cs) with
      | some tag =>
        let rest := tagsFrom (tag.length + 1) false cs
        if isEscaped then rest else tag :: rest
      | none => tagsFrom 0 false cs

/-- A style that is open, with the parameters of its tag: what stands behind a sign of equality. -/
structure Opened where
  style : String
  parameters : List Char

/-- A character of the name of an action. -/
def isActionChar (c : Char) : Bool := Text.isWordChar c || c == '.'

/-- Are the parameters of an action readable? They are nothing at all, the name of the action, a
name with arguments in brackets, or a literal. -/
def isReadable (parameters : List Char) : Bool :=
  let cs := Text.trim Text.isBlank parameters
  let arguments := cs.dropWhile isActionChar
  if parameters.isEmpty || arguments.isEmpty then true
  else if 2 ≤ arguments.length && arguments.head? == some '(' &&
      arguments.getLast? == some ')' && !arguments.contains '\n' then
    Literal.isLiteral arguments
  else Literal.isLiteral cs

/-- Closes a style. One that begins with an at sign stands for an action, whose parameters are read
now. -/
def Opened.close (o : Opened) : Outcome Unit :=
  if Text.startsWith o.style "@" && !isReadable o.parameters then
    .error (.unreadParameters (String.ofList o.parameters))
  else .ok ()

/-- The styles that are open without the first one of a name, and that one. -/
def takeStyle? (style : String) : List Opened → Option (Opened × List Opened)
  | [] => none
  | o :: rest =>
    if o.style == style then some (o, rest)
    else (takeStyle? style rest).map fun (found, others) => (found, o :: others)

/-- The styles that are open behind a tag, the last one first, given those before it. -/
def follow (opened : List Opened) (tag : List Char) : Outcome (List Opened) := do
  match tag.takeWhile (· != '=') with
  | '/' :: rest =>
    let name := Text.strip (String.ofList rest)
    let style ←
      if name.isEmpty then pure ((opened.head?.map (·.style)).getD "") else normalForm name
    match takeStyle? style opened with
    | some (o, others) =>
      o.close
      return others
    | none => throw (.unopened (String.ofList tag))
  | name =>
    let style ← normalForm (String.ofList name)
    return ⟨style, (tag.dropWhile (· != '=')).drop 1⟩ :: opened

/-- Checks that all tags of a text close what is open. Around the text there is a style of its own.
-/
def check (text : String) : Outcome Unit := do
  let _ ← (tagsFrom 0 false text.toList).foldlM follow [⟨"progress.description", []⟩]

end SpecForge.Command.Markup
