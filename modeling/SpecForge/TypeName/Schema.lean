import SpecForge.Failure
import SpecForge.Platform
import SpecForge.Text.Case

/-!
# Schema types

The spelling of schema types on each platform. A type together with a format may have a richer
spelling. A name that no table knows is a model and keeps its spelling, unless the reading is
strict.
-/

namespace SpecForge.TypeName

/-- The spellings of plain schema types. -/
def plainTable : Platform → List (String × String)
  | .ios =>
    [("string", "String"), ("integer", "Int"), ("number", "Double"), ("boolean", "Bool"),
      ("object", "[String: AnyCodable]"), ("array", "[AnyCodable]"), ("any", "AnyCodable"),
      ("void", "Void"), ("null", "AnyCodable")]
  | .android =>
    [("string", "String"), ("integer", "Int"), ("number", "Double"), ("boolean", "Boolean"),
      ("object", "Map<String, Any>"), ("array", "List<Any>"), ("any", "Any"), ("void", "Unit"),
      ("null", "Any")]
  | .web =>
    [("string", "string"), ("integer", "number"), ("number", "number"), ("boolean", "boolean"),
      ("object", "Record<string, unknown>"), ("array", "unknown[]"), ("any", "unknown"),
      ("void", "void"), ("null", "null")]

/-- The spellings of schema types with a format. -/
def formatTable : Platform → List ((String × String) × String)
  | .ios =>
    [(("string", "date-time"), "Date"), (("string", "date"), "Date"), (("string", "uuid"), "UUID"),
      (("string", "uri"), "URL"), (("integer", "int64"), "Int64"), (("number", "float"), "Float")]
  | .android => [(("integer", "int64"), "Long"), (("number", "float"), "Float")]
  | .web => []

/-- The spelling that a table has for a schema type. A format counts only with the exact type; the
type by itself may be written in any case. -/
def schema? (p : Platform) (type : String) (format : Option String) : Option String :=
  match format.bind fun f => (formatTable p).lookup (type, f) with
  | some spelling => some spelling
  | none => ((plainTable p).lookup type).orElse fun _ => (plainTable p).lookup (Text.lower type)

/-- The spelling of a schema type; an unknown one is spelled as it is. -/
def schema (p : Platform) (type : String) (format : Option String) : String :=
  (schema? p type format).getD type

/-- The spelling of a schema type that a table must know. -/
def schemaStrict (p : Platform) (type : String) (format : Option String) :
    Except SpecFault String :=
  match schema? p type format with
  | some spelling => .ok spelling
  | none => .error (.typeName type p.name)

/-- The spelling of a list of elements. -/
def collection (p : Platform) (element : String) : String :=
  match p with
  | .ios => "[" ++ element ++ "]"
  | .android => "List<" ++ element ++ ">"
  | .web =>
    if element.toList.any fun c => c == ' ' || c == '|' then "Array<" ++ element ++ ">"
    else element ++ "[]"

/-- The spelling of an optional value. -/
def optional (p : Platform) (inner : String) : String :=
  match p with
  | .ios => inner ++ "?"
  | .android => inner ++ "?"
  | .web => inner ++ " | undefined"

/-- The spelling of the type of a field, which may be a list of elements. -/
def field (p : Platform) (type : String) (isArray : Bool) (format : Option String) : String :=
  let element := schema p type format
  if isArray then collection p element else element

end SpecForge.TypeName
