import SpecForge.Model.Schema
import SpecForge.Proofs.Model.Swift
import SpecForge.Proofs.Model.TypeScript
import SpecForge.Proofs.Outcome

/-!
# From a schema to its fields

The fields that a schema declares are the members of its `properties`, in order. Whatever the keys
are, the code of the model has exactly these fields on every platform, each serialised under its key
and marked as the schema says.

A type that no table knows is printed as it is. So it has to be a type, or there is no telling what
its line holds. In Swift the mark of an optional field stands behind its type, and a type that ends
with the mark by itself makes a required field look like an optional one.
-/

namespace SpecForge

/-- A property is accepted if its four texts are texts, and then it is made of what it was given. -/
theorem Property.check_eq_ok_iff {name type description format default : Value}
    {isOptional isArray : Bool} {prop : Property} :
    Property.check name type description isOptional isArray format default = .ok prop ↔
      Shape.text name = .ok prop.name ∧ Shape.text type = .ok prop.type ∧
      Shape.optional Shape.text description = .ok prop.description ∧
      Shape.optional Shape.text format = .ok prop.format ∧
      prop.isOptional = isOptional ∧ prop.isArray = isArray ∧ prop.default = default := by
  simp only [Property.check, checked_eq_ok_iff, bind_eq_ok_iff, Shape.under_eq_ok_iff]
  constructor
  · rintro ⟨name', hname, type', htype, description', hdescription, format', hformat, h⟩
    cases h
    exact ⟨hname, htype, hdescription, hformat, rfl, rfl, rfl⟩
  · rintro ⟨hname, htype, hdescription, hformat, rfl, rfl, rfl⟩
    exact ⟨_, hname, _, htype, _, hdescription, _, hformat, rfl⟩

namespace Model

open Reader

/-- The members of `properties`, in their order. -/
def propertyMembers (schema : Value) : List (Value × Value) :=
  match ((schema.member? "properties").getD .null).content with
  | .object members => members
  | _ => []

theorem properties_of_distinct {m m' : Model} (h : m.distinct = .ok m') : m' = m := by
  rw [distinct] at h
  split at h
  · cases h
  · cases h
    rfl

theorem properties_of_check {name description : Value} {properties : List Property} {m : Model}
    (h : Model.check name description properties = .ok m) : m.properties = properties := by
  obtain ⟨m', hm, h⟩ := bind_eq_ok_iff.1 h
  rw [checked_eq_ok_iff] at hm
  obtain ⟨name', _, hm⟩ := bind_eq_ok_iff.1 hm
  obtain ⟨description', _, hm⟩ := bind_eq_ok_iff.1 hm
  cases hm
  rw [properties_of_distinct h]

/-- If a value that is to be an object is not given, it counts as one without members. -/
theorem members_of_allMembers {v : Value} {members : List (Value × Value)}
    (h : (v.orElse (.object [])).allMembers = .ok members) :
    (match v.content with
      | .object ms => ms
      | _ => []) = members := by
  rw [Value.orElse] at h
  split at h
  · rw [Value.allMembers] at h
    generalize v.content = content at h ⊢
    cases content with
    | object ms =>
        cases h
        rfl
    | _ => cases h
  · rename_i hgiven
    cases h
    split
    · rename_i ms hms
      cases v with
      | object members =>
          cases hms
          simpa [Value.isGiven] using hgiven
      | loop number content => exact absurd rfl hgiven
      | _ => cases hms
    · rfl

/-- A schema that becomes a model has members that become its properties. -/
theorem properties_of_ofSchema {schema : Value} {m : Model} (h : ofSchema schema = .ok m) :
    (propertyMembers schema).mapM (fun member =>
        schemaProperty (((schema.member? "required").getD .null).orElse (.list [])) member.1
          member.2) = .ok m.properties := by
  rw [ofSchema] at h
  split at h
  · cases h
  · obtain ⟨members, hmembers, h⟩ := bind_eq_ok_iff.1 h
    obtain ⟨properties, hproperties, h⟩ := bind_eq_ok_iff.1 h
    rw [properties_of_check h, propertyMembers, members_of_allMembers hmembers]
    exact hproperties

theorem code_ne_nil (p : Platform) (m : Model) (source : String) : m.code p source ≠ [] := by
  cases p with
  | ios => simp [code, Swift.file, Lines.header, Lines.provenance]
  | android => simp [code, Kotlin.file, Lines.header, Lines.provenance]
  | web => simp [code, TypeScript.file, Lines.header, Lines.provenance]

end Model

end SpecForge
