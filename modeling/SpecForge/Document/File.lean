import SpecForge.Document.Json.Reader
import SpecForge.Document.Yaml.Reader
import SpecForge.Failure
import SpecForge.Text.Case
import SpecForge.Text.Split

/-!
# Documents in files

The ending of a file's name says whether its text is YAML or JSON. The document must be an object.
-/

namespace SpecForge.Document

/-- The part of a name from its last dot on, unless the dot is its first or its last character. -/
def ending (name : String) : String :=
  let reversed := name.toList.reverse
  let tail := reversed.takeWhile (· != '.')
  if tail.isEmpty || reversed.length ≤ tail.length + 1 then ""
  else "." ++ String.ofList tail.reverse

/-- The name without its ending. -/
def stem (name : String) : String :=
  String.ofList (name.toList.take (name.length - (ending name).length))

/-- Is the file written in YAML? -/
def isYamlName (name : String) : Bool := [".yaml", ".yml"].contains (Text.lower (ending name))

/-- The failure that a fault of a YAML text is. -/
def yamlFailure (name : String) (f : Yaml.Fault) : Failure :=
  match f with
  | .unreadNumber => .unreadNumber
  | .emptyNumeral => .emptyNumeral
  | .unknownWord => .absent
  | .unreadMoment => .noParts
  | .textInside => .unfit
  | .hugeCodePoint => .overflow
  | .hugeSixties => .overflow
  | .depth => .depth
  | f => .spec (.unreadable name f.message)

/-- The failure that a fault of a JSON text is, its wording being given. -/
def jsonFailure (f : Json.Fault) (fault : SpecFault) : Failure :=
  match f.cause with
  | .digits => .unreadNumber
  | .depth => .depth
  | _ => .spec fault

/-- The value that the text of a file holds. -/
def valueOf (name text : String) : Outcome Value :=
  let text := String.ofList (Text.unifyBreaks text.toList)
  if isYamlName name then
    match Yaml.read text with
    | .ok v => .ok v
    | .error f => .error (yamlFailure name f)
  else match Json.read text with
    | .ok v => .ok v
    | .error f => .error (jsonFailure f (.unreadable name f.message))

/-- The object that a file holds. -/
def ofFile (name text : String) : Outcome Value := do
  let v ← valueOf name text
  if v.isObject then return v else throw (.spec (.notObject name))

end SpecForge.Document
