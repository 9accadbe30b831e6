import SpecForge.Document.Shape

/-!
# Models

The normalized form of an object schema: a name and a list of properties, no two of which have the
same name.
-/

namespace SpecForge

/-- A property of a model. Where it is an array the type is that of its elements. -/
structure Property where
  name : String
  type : String
  description : Option String
  isOptional : Bool
  isArray : Bool
  format : Option String
  default : Value

/-- A model. -/
structure Model where
  name : String
  description : Option String
  properties : List Property

/-- The first item that occurs again after an equal one. -/
def firstRepeated {α : Type} [BEq α] (seen : List α) : List α → Option α
  | [] => none
  | x :: xs => if seen.contains x then some x else firstRepeated (x :: seen) xs

theorem firstRepeated_eq_none_iff {α : Type} [BEq α] [LawfulBEq α] (seen xs : List α) :
    firstRepeated seen xs = none ↔ xs.Nodup ∧ ∀ x ∈ xs, x ∉ seen := by
  induction xs generalizing seen with
  | nil => simp [firstRepeated]
  | cons x xs ih =>
    simp only [firstRepeated]
    split
    · rename_i h; simp_all
    · rename_i h
      rw [ih]
      simp only [List.contains_iff_mem] at h
      constructor
      · rintro ⟨hn, hs⟩
        refine ⟨List.nodup_cons.2 ⟨fun hx => hs x hx (by simp), hn⟩, ?_⟩
        intro y hy
        rcases List.mem_cons.1 hy with rfl | hy
        · exact h
        · exact fun hy' => hs y hy (by simp [hy'])
      · rintro ⟨hn, hs⟩
        have hn := List.nodup_cons.1 hn
        refine ⟨hn.2, fun y hy hy' => ?_⟩
        rcases List.mem_cons.1 hy' with rfl | hy'
        · exact hn.1 hy
        · exact hs y (by simp [hy]) hy'

/-- The reading of a part of the normalized representation. -/
def checked {α : Type} : Except Issue α → Outcome α
  | .ok a => .ok a
  | .error i => .error (.invalid i)

/-- A property made of values that are still to be checked. -/
def Property.check (name type description : Value) (isOptional isArray : Bool)
    (format default : Value) : Outcome Property :=
  checked do
    let name ← Shape.under "name" (Shape.text name)
    let type ← Shape.under "type" (Shape.text type)
    let description ← Shape.under "description" (Shape.optional Shape.text description)
    let format ← Shape.under "format" (Shape.optional Shape.text format)
    return ⟨name, type, description, isOptional, isArray, format, default⟩

/-- A model whose properties have different names. -/
def Model.distinct (m : Model) : Outcome Model :=
  match firstRepeated [] (m.properties.map (·.name)) with
  | some name => .error (.spec (.repeatedProperty name m.name))
  | none => .ok m

/-- A model made of values that are still to be checked. -/
def Model.check (name description : Value) (properties : List Property) : Outcome Model := do
  let m : Model ← checked do
    let name ← Shape.under "name" (Shape.text name)
    let description ← Shape.under "description" (Shape.optional Shape.text description)
    return ⟨name, description, properties⟩
  m.distinct

/-- A property written out member by member. -/
def Property.ofValue : Shape.Reader Property := fun v => do
  let ms ← Shape.record "ParsedProperty" v
  let name ← Shape.required "name" "name" Shape.text ms
  let type ← Shape.required "type" "type" Shape.text ms
  let description ← Shape.possible "description" "description" Shape.text ms
  let isOptional ← Shape.required "optional" "optional" Shape.truth ms
  let isArray ← Shape.given "is_array" "is_array" false Shape.truth ms
  let format ← Shape.possible "format" "format" Shape.text ms
  let default ← Shape.given "default_value" "default_value" .null Shape.any ms
  return ⟨name, type, description, isOptional, isArray, format, default⟩

/-- A model written out member by member. -/
def Model.ofValue (v : Value) : Outcome Model := do
  let m : Model ← checked do
    let ms ← Shape.record "ParsedModel" v
    let name ← Shape.required "name" "name" Shape.text ms
    let description ← Shape.possible "description" "description" Shape.text ms
    let properties ←
      Shape.given "properties" "properties" [] (Shape.sequence Property.ofValue) ms
    return ⟨name, description, properties⟩
  m.distinct

end SpecForge
