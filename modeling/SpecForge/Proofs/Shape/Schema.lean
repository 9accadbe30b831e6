import Mathlib.Tactic.MkIffOfInductiveProp
import SpecForge.Proofs.Shape.Fits

/-!
# The shape of a schema

An object schema is read like an OpenAPI document, without a check beforehand. A type that is a list
of types counts as the first one that is not null, and only the items of an array are looked into.
-/

namespace SpecForge.Model

open Value
open Api (memberOrNull objectOrEmpty membersOf tableOf membersOf_of_allMembers)

/-- A schema that names a type: by a reference, or by the type that it declares. -/
def NamesType (schema : Value) : Prop :=
  match schema.member? "$ref" with
  | some target => target.IsPlainText
  | none => (declaredType (memberOrNull schema "type")).IsText

theorem isText_eq_true_iff {v : Value} {s : String} : v.isText s = true ↔ v = .str s := by
  cases v with
  | str t =>
      rw [Value.isText, beq_iff_eq, Value.str.injEq]
      exact eq_comm
  | _ => simp [Value.isText]

theorem namesType_iff {schema : Value} :
    NamesType schema ↔ ∃ type, schemaType schema = .ok type ∧ type.IsText := by
  simp only [NamesType, schemaType, memberOrNull, Value.member?]
  cases schema.content with
  | object members =>
      dsimp only
      cases Value.lookup "$ref" members with
      | none => simp
      | some target =>
          cases target with
          | str s => simp [IsPlainText, Value.asText, isText_str]
          | _ => simp [IsPlainText, Value.asText]
  | _ =>
      have hany : (declaredType .null).IsText := isText_str "any"
      simpa [anyType, isText_str] using hany

/-- A schema whose elements name a type: its items if it is an array, and otherwise itself. -/
@[mk_iff]
structure ElementShape (schema : Value) : Prop where
  type : NamesType schema
  items : schemaType schema = .ok (.str "array") → (memberOrNull schema "items").isGiven = true →
    NamesType (memberOrNull schema "items")

theorem fits_bind_elementType {α : Type} {schema : Value} {P : Prop}
    {f : Value × Bool → Outcome α}
    (hf : ∀ type isArray, Fits (type.IsText ∧ P) (f (type, isArray))) :
    Fits (ElementShape schema ∧ P) (elementType schema >>= f) := by
  simp only [elementShape_iff, namesType_iff, elementType]
  cases schemaType schema with
  | error e => exact (fits_error e).congr (by simp)
  | ok type =>
      cases harray : type.isText "array" with
      | false =>
          have hne : type ≠ .str "array" := by
            rintro rfl
            cases harray
          change Fits _ ((if type.isText "array" = true then _ else _) >>= f)
          rw [harray]
          exact (hf type false).congr (by simp [hne])
      | true =>
          obtain rfl := isText_eq_true_iff.1 harray
          simp only [memberOrNull]
          cases ((schema.member? "items").getD .null).isGiven with
          | false => exact (hf anyType true).congr (by simp [anyType, isText_str])
          | true =>
              cases schemaType ((schema.member? "items").getD .null) with
              | error e => exact (fits_error e).congr (by simp)
              | ok items => exact (hf items true).congr (by simp [isText_str])

/-- The shape of a member of `properties`, the required names being looked up. -/
@[mk_iff]
structure PropertyShape (required name schema : Value) : Prop where
  required : required.MayHold name
  type : ElementShape (objectOrEmpty schema)
  name : name.IsText
  description : (memberOrNull (objectOrEmpty schema) "description").IsTextOrNull
  format : (memberOrNull (objectOrEmpty schema) "format").IsTextOrNull

theorem fits_schemaProperty (required name schema : Value) :
    Fits (PropertyShape required name schema) (schemaProperty required name schema) := by
  rw [propertyShape_iff, schemaProperty]
  refine fits_holds.bind fun isRequired _ => ?_
  refine fits_bind_elementType fun type isArray => ?_
  exact fits_propertyCheck.congr and_left_comm

/-- The shape of an object schema. -/
@[mk_iff]
structure SchemaShape (schema : Value) : Prop where
  table : (memberOrNull schema "properties").IsTable
  properties : ∀ m ∈ membersOf (memberOrNull schema "properties"),
    PropertyShape ((memberOrNull schema "required").orElse (.list [])) m.1 m.2
  title : ((memberOrNull schema "title").orElse unnamed).IsText
  description : (memberOrNull schema "description").IsTextOrNull

theorem fits_ofSchema (schema : Value) : Fits (SchemaShape schema) (ofSchema schema) := by
  rw [schemaShape_iff, ofSchema]
  split
  · exact fits_spec _ _
  · refine Fits.bind fits_tableOf fun members hmembers => ?_
    have hlisted : membersOf (memberOrNull schema "properties") = members :=
      membersOf_of_allMembers hmembers
    rw [hlisted]
    exact (Fits.mapM fun m _ => fits_schemaProperty _ m.1 m.2).bind fun _ _ => fits_modelCheck

end SpecForge.Model
