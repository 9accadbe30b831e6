import SpecForge.Document.Yaml.Scalar

/-!
# Tokens

The tokens of a YAML text, and the readings of those that are no scalars: anchors and aliases, tags
and directives.
-/

namespace SpecForge.Yaml

/-- A remark at the head of a document: the version, the meaning of a tag handle, or something that
is passed over. -/
inductive Directive where
  | version (major : Nat)
  | handle (name expansion : String)
  | other
deriving DecidableEq

/-- A token. -/
inductive Token where
  | streamEnd
  | directive (d : Directive)
  | documentStart
  | documentEnd
  | blockSequenceStart
  | blockMappingStart
  | blockEnd
  | flowSequenceStart
  | flowSequenceEnd
  | flowMappingStart
  | flowMappingEnd
  | blockEntry
  | flowEntry
  | key
  | value
  | alias (name : String)
  | anchor (name : String)
  | tag (handle : Option String) (ending : String)
  | scalar (text : String) (isPlain : Bool)
deriving DecidableEq

/-- The name of a token in messages. -/
def Token.name : Token → String
  | .streamEnd => "<stream end>"
  | .directive _ => "<directive>"
  | .documentStart => "<document start>"
  | .documentEnd => "<document end>"
  | .blockSequenceStart => "<block sequence start>"
  | .blockMappingStart => "<block mapping start>"
  | .blockEnd => "<block end>"
  | .flowSequenceStart => "["
  | .flowSequenceEnd => "]"
  | .flowMappingStart => "\x7b"
  | .flowMappingEnd => "\x7d"
  | .blockEntry => "-"
  | .flowEntry => ","
  | .key => "?"
  | .value => ":"
  | .alias _ => "<alias>"
  | .anchor _ => "<anchor>"
  | .tag _ _ => "<tag>"
  | .scalar _ _ => "<scalar>"

open Cursor

/-- The characters of names. -/
def isNameChar (c : Char) : Bool :=
  Text.isAsciiLetter c || Text.isAsciiDigit c || c == '-' || c == '_'

/-- A name that must not be empty and must be followed by a character of some class. -/
def name (lexeme : Lexeme) (mayFollow : Char → Bool) (c : Cursor) :
    Except Fault (String × Cursor) :=
  let (cs, c) := c.takeWhile isNameChar
  if cs.isEmpty || !mayFollow c.head then .error (.scanning lexeme)
  else .ok (String.ofList cs, c)

/-- What may follow the name of an anchor. -/
def endsAnchor (c : Char) : Bool :=
  isGap c || ['?', ':', ',', ']', '\x7d', '%', '@', '\x60'].contains c

/-- The name of an anchor or an alias, after its indicator. -/
def anchorName (lexeme : Lexeme) (c : Cursor) : Except Fault (String × Cursor) :=
  name lexeme endsAnchor c.next

/-! ## Tags -/

/-- The characters of the address that a tag is. -/
def isAddressChar (c : Char) : Bool :=
  Text.isAsciiLetter c || Text.isAsciiDigit c || "-;/?:@&=+$,_.!~*'()[]".toList.contains c

/-- The bytes written as percent signs with two hexadecimal digits each. The first argument bounds
their number. -/
def percentBytes (lexeme : Lexeme) : Nat → Cursor → Except Fault (List UInt8 × Cursor)
  | 0, c => .ok ([], c)
  | fuel + 1, c =>
    if c.head != '%' then .ok ([], c)
    else match Text.hexValue? (c.peek 1), Text.hexValue? (c.peek 2) with
      | some a, some b => do
        let (more, c) ← percentBytes lexeme fuel (c.forward 3)
        return (UInt8.ofNat (16 * a + b) :: more, c)
      | _, _ => .error (.scanning lexeme)

/-- An address, percent signs resolved. The first argument bounds the length of the text. -/
def addressFrom (lexeme : Lexeme) : Nat → Cursor → Except Fault (List Char × Cursor)
  | 0, c => .ok ([], c)
  | fuel + 1, c => do
    if c.head == '%' then
      let (bytes, c) ← percentBytes lexeme fuel c
      match String.fromUTF8? (ByteArray.mk bytes.toArray) with
      | some s =>
        let (rest, c) ← addressFrom lexeme fuel c
        return (s.toList ++ rest, c)
      | none => throw (.scanning lexeme)
    else if isAddressChar c.head then
      let x := c.head
      let (rest, c) ← addressFrom lexeme fuel c.next
      return (x :: rest, c)
    else return ([], c)

/-- An address that must not be empty. -/
def address (lexeme : Lexeme) (phrase : Phrase) (c : Cursor) : Except Fault (String × Cursor) := do
  if !isAddressChar c.head && c.head != '%' then throw (.parsing phrase)
  let (cs, c) ← addressFrom lexeme (c.left + 1) c
  return (String.ofList cs, c)

/-- A tag handle: an exclamation mark, perhaps with a name and another mark after it. -/
def tagHandle (lexeme : Lexeme) (c : Cursor) : Except Fault (String × Cursor) := do
  if c.head != '!' then throw (.scanning lexeme)
  let c := c.next
  if c.head == ' ' then return ("!", c)
  let (cs, c) := c.takeWhile isNameChar
  if c.head != '!' then throw (.scanning lexeme)
  return ("!" ++ String.ofList cs ++ "!", c.next)

/-- Does another exclamation mark stand in this word? -/
def hasHandle (c : Cursor) : Bool :=
  (c.rest.takeWhile fun x => !endsWord x).contains '!'

/-- A tag: an address in angle brackets, a lone mark, or an address after a handle. -/
def tag (c : Cursor) : Except Fault (Token × Cursor) := do
  let (token, c) ← do
    if c.peek 1 == '<' then
      let (ending, c) ← address .tag .tag (c.forward 2)
      if c.head != '>' then throw (.parsing .tag)
      pure (Token.tag none ending, c.next)
    else if isGap (c.peek 1) then pure (Token.tag none "!", c.next)
    else
      let (handle, c) ←
        if hasHandle c.next then tagHandle .tag c else pure ("!", c.next)
      let (ending, c) ← address .tag .tag c
      pure (Token.tag (some handle) ending, c)
  if !endsWord c.head then throw (.scanning .tag)
  return (token, c)

/-! ## Directives -/

/-- A number in a directive; it must not have too many digits. -/
def directiveNumber (c : Cursor) : Except Fault (Nat × Cursor) :=
  let (cs, c) := c.takeWhile Text.isAsciiDigit
  if cs.isEmpty then .error (.scanning .directive)
  else if Decimal.digitLimit < cs.length then .error .unreadNumber
  else .ok (Decimal.ofDigits 10 (cs.filterMap Text.asciiDigit?), c)

/-- The version in a directive. -/
def versionDirective (c : Cursor) : Except Fault (Directive × Cursor) := do
  let (major, c) ← directiveNumber c.skipSpaces
  if c.head != '.' then throw (.scanning .directive)
  let (_, c) ← directiveNumber c.next
  if !endsWord c.head then throw (.scanning .directive)
  return (.version major, c)

/-- The tag handle in a directive and what it stands for. -/
def handleDirective (c : Cursor) : Except Fault (Directive × Cursor) := do
  let (handle, c) ← tagHandle .directive c.skipSpaces
  if c.head != ' ' then throw (.scanning .directive)
  let (expansion, c) ← address .directive .directive c.skipSpaces
  if !endsWord c.head then throw (.scanning .directive)
  return (.handle handle expansion, c)

/-- A directive with the rest of its line. -/
def directive (c : Cursor) : Except Fault (Directive × Cursor) := do
  let (word, c) ← name .directive endsWord c.next
  let (d, c) ← match word with
    | "YAML" => versionDirective c
    | "TAG" => handleDirective c
    | _ => pure (.other, c.skipLine)
  let c := c.skipSpaces.skipComment
  if !endsLine c.head then throw (.scanning .directive)
  return (d, c.skipBreak)

end SpecForge.Yaml
