import SpecForge.Api.Basic
import SpecForge.Name
import SpecForge.TypeName.Schema

/-!
# Requests

What all clients of a service have in common: the address of the service, and for each endpoint its
path and the types of its parameters, of its body and of its answer on a platform.

A path is a row of literal characters and slots: the leftmost opening brace with at least one
character before the next closing brace opens a slot. What is written for a slot is up to the
client; the literal characters are kept.
-/

namespace SpecForge

namespace Api

/-! ## Paths -/

/-- A piece of a path: a literal character, or a slot with the name in it. -/
inductive PathPiece where
  | char (c : Char)
  | slot (name : List Char)
deriving DecidableEq

/-- The name of a slot that was just opened, and what follows its closing brace. -/
def slotName? (cs : List Char) : Option (List Char × List Char) :=
  match cs.dropWhile (· != '\x7d') with
  | [] => none
  | _ :: rest =>
    let name := cs.takeWhile (· != '\x7d')
    if name.isEmpty then none else some (name, rest)

theorem slotName?_length_le {cs name rest : List Char} (h : slotName? cs = some (name, rest)) :
    rest.length ≤ cs.length := by
  have hs := (List.dropWhile_suffix (l := cs) (· != '\x7d')).length_le
  simp only [slotName?] at h
  split at h
  · cases h
  · rename_i hd
    split at h
    · cases h
    · cases h
      rw [hd, List.length_cons] at hs
      omega

/-- The pieces of a path. -/
def pathPieces : List Char → List PathPiece
  | [] => []
  | c :: cs =>
    if c = '\x7b' then
      match _h : slotName? cs with
      | some (name, rest) => .slot name :: pathPieces rest
      | none => .char c :: pathPieces cs
    else .char c :: pathPieces cs
termination_by cs => cs.length
decreasing_by
  · have := slotName?_length_le _h; simp only [List.length_cons]; omega
  · simp
  · simp

/-- A piece of a path in a client, slots being opened and closed by the given marks. -/
def PathPiece.write (opening closing : String) : PathPiece → String
  | .char c => String.singleton c
  | .slot name => opening ++ Name.toIdentifier (String.ofList name) ++ closing

/-- The path in a client. -/
def fillPath (opening closing : String) (path : String) : String :=
  String.join ((pathPieces path.toList).map (PathPiece.write opening closing))

end Api

/-! ## What an endpoint takes and gives -/

/-- A text that is there and not empty. -/
def nonEmpty? (text : Option String) : Option String :=
  text.bind fun s => if s.isEmpty then none else some s

namespace Api

/-- The address where no server is declared. -/
def defaultUrl : String := "http://localhost"

/-- The address of the service; an empty one counts as none. -/
def url (api : Api) : String := (nonEmpty? api.baseUrl).getD defaultUrl

end Api

/-- The name of a parameter in code. -/
def Parameter.identifier (param : Parameter) : String := Name.toIdentifier param.name

/-- The type of a parameter. -/
def Parameter.spelling (p : Platform) (param : Parameter) : String :=
  TypeName.field p param.type param.isArray param.format

/-- The type of a body. -/
def RequestBody.spelling (p : Platform) (body : RequestBody) : String :=
  TypeName.field p body.type body.isArray none

namespace Endpoint

/-- The name of the method of a client. -/
def methodName (e : Endpoint) : String := Name.toIdentifier e.operationId

/-- The type of the answer, if success has one. -/
def answer? (p : Platform) (e : Endpoint) : Option String := do
  let r ← e.successResponse?
  let type ← r.type
  return TypeName.field p type r.isArray none

/-- The line that says what an endpoint does: its summary, its description, or method and path. -/
def headline (e : Endpoint) : String :=
  ((nonEmpty? e.summary).orElse fun _ => nonEmpty? e.description).getD (e.method ++ " " ++ e.path)

end Endpoint

end SpecForge
