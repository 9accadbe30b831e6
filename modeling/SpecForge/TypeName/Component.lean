import SpecForge.TypeName.Schema
import SpecForge.Text.Blank
import SpecForge.Text.Split

/-!
# Component types

The types of component properties: a name, a binding `Binding<T>`, a list `T[]` or an optional `T?`,
with blanks anywhere between the parts. A text is first read as such an expression and the
expression is then spelled for a platform; a binding is spelled as the type it binds.
-/

namespace SpecForge

/-- A component type. -/
inductive TypeExpr where
  | name (s : String)
  | binding (inner : TypeExpr)
  | list (element : TypeExpr)
  | maybe (inner : TypeExpr)
deriving DecidableEq, Repr

namespace TypeExpr

open Text

/-- What stands between `Binding<` and a final `>`. -/
def unwrap? (cs : List Char) : Option (List Char) :=
  let head := "Binding<".toList
  if beginsWith head cs && cs.getLast? == some '>' then
    some ((cs.drop head.length).dropLast)
  else none

theorem trim_length_le (p : Char → Bool) (cs : List Char) : (trim p cs).length ≤ cs.length := by
  unfold trim
  rw [List.length_reverse]
  refine Nat.le_trans (List.dropWhile_suffix p).length_le ?_
  rw [List.length_reverse]
  exact (List.dropWhile_suffix p).length_le

theorem unwrap?_length_lt {cs inner : List Char} (h : unwrap? cs = some inner) :
    inner.length < cs.length := by
  simp only [unwrap?] at h
  split at h
  · rename_i hc
    cases h
    have : cs ≠ [] := by rintro rfl; simp at hc
    have := List.length_pos_iff.2 this
    simp only [List.length_dropLast, List.length_drop]
    omega
  · cases h

/-- The part before a final ending, if the text has it. -/
def beforeEnding? (ending cs : List Char) : Option (List Char) :=
  if beginsWith ending.reverse cs.reverse then some (cs.take (cs.length - ending.length)) else none

theorem beforeEnding?_length_lt {ending cs inner : List Char} (hne : ending ≠ [])
    (h : beforeEnding? ending cs = some inner) : inner.length < cs.length := by
  simp only [beforeEnding?] at h
  split at h
  · rename_i hb
    cases h
    have : cs ≠ [] := by
      rintro rfl
      cases he : ending.reverse with
      | nil => simp_all
      | cons a as => simp [he, beginsWith] at hb
    have := List.length_pos_iff.2 this
    have := List.length_pos_iff.2 hne
    simp only [List.length_take]
    omega
  · cases h

/-- The expression that a text spells. Every text spells one: what is no binding, list or optional
is a name. -/
def read (cs : List Char) : TypeExpr :=
  let body := trim isBlank cs
  match _hb : unwrap? body with
  | some inner => .binding (read inner)
  | none => match _hl : beforeEnding? ['[', ']'] body with
    | some element => .list (read element)
    | none => match _hm : beforeEnding? ['?'] body with
      | some inner => .maybe (read inner)
      | none => .name (String.ofList body)
termination_by cs.length
decreasing_by
  · have := unwrap?_length_lt _hb
    have : body.length ≤ cs.length := trim_length_le isBlank cs
    omega
  · have := beforeEnding?_length_lt (by simp) _hl
    have : body.length ≤ cs.length := trim_length_le isBlank cs
    omega
  · have := beforeEnding?_length_lt (by simp) _hm
    have : body.length ≤ cs.length := trim_length_le isBlank cs
    omega

end TypeExpr

namespace TypeName

/-- The spellings of component types. -/
def componentTable : Platform → List (String × String)
  | .ios =>
    [("String", "String"), ("Int", "Int"), ("Double", "Double"), ("Bool", "Bool"),
      ("Color", "Color"), ("Font", "Font"), ("Image", "Image"), ("Void", "Void"), ("Any", "Any")]
  | .android =>
    [("String", "String"), ("Int", "Int"), ("Double", "Double"), ("Bool", "Boolean"),
      ("Color", "Color"), ("Font", "TextStyle"), ("Image", "ImageVector"), ("Void", "Unit"),
      ("Any", "Any")]
  | .web =>
    [("String", "string"), ("Int", "number"), ("Double", "number"), ("Bool", "boolean"),
      ("Color", "string"), ("Font", "string"), ("Image", "string"), ("Void", "void"),
      ("Any", "unknown")]

/-- The spelling of a component type; an unknown name is spelled as it is. -/
def spell (p : Platform) : TypeExpr → String
  | .name s => ((componentTable p).lookup s).getD s
  | .binding inner => spell p inner
  | .list element => collection p (spell p element)
  | .maybe inner => optional p (spell p inner)

/-- The spelling of a component type whose name a table must know. -/
def spellStrict (p : Platform) : TypeExpr → Except SpecFault String
  | .name s => match (componentTable p).lookup s with
    | some spelling => .ok spelling
    | none => .error (.typeName s p.name)
  | .binding inner => spellStrict p inner
  | .list element => (spellStrict p element).map (collection p)
  | .maybe inner => (spellStrict p inner).map (optional p)

/-- The spelling of the component type that a text spells. -/
def component (p : Platform) (type : String) : String := spell p (.read type.toList)

/-- What a binding binds. -/
def unwrapBinding? (type : String) : Option String :=
  (TypeExpr.unwrap? type.toList).map String.ofList

end TypeName

end SpecForge
