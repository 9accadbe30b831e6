import SpecForge.Proofs.Model.FreshName
import SpecForge.Proofs.Model.Reader
import SpecForge.Proofs.TypeName

/-!
# The fields of a model

A model has one field for each property on every platform. Their names are words, no two of them are
the same, and key, type and optionality are those of the property.

Name, types and descriptions of a model are put into its code as they are. The code can be read only
if the name is one, if the types are types, and if no description ends the comment that it stands
in.
-/

namespace SpecForge

/-- Fields whose names are words, no two of them the same. -/
structure WellNamed (fields : List CodeField) : Prop where
  allWord : ∀ f ∈ fields, Name.AllWord f.name.toList
  nodup : (fields.map (·.name)).Nodup

theorem CodeField.key_eq_name {f : CodeField} (h : ¬ f.isRenamed = true) : f.key = f.name := by
  simpa [isRenamed] using h

theorem WellNamed.tail {f : CodeField} {fields : List CodeField} (h : WellNamed (f :: fields)) :
    WellNamed fields := by
  constructor
  · exact fun g hg => h.allWord g (List.mem_cons_of_mem f hg)
  · exact (List.nodup_cons.1 h.nodup).2

/-- Among fields with different names each is found under its name. -/
theorem lookup_name {β : Type} {value : CodeField → β} {fields : List CodeField}
    (h : WellNamed fields) {f : CodeField} (hf : f ∈ fields) :
    (fields.map fun g => (g.name, value g)).lookup f.name = some (value f) := by
  induction fields with
  | nil => exact absurd hf List.not_mem_nil
  | cons g fields ih =>
      rcases List.mem_cons.1 hf with rfl | hf
      · rw [List.map_cons, List.lookup_cons_self]
      · have hne : f.name ≠ g.name := by
          intro heq
          exact (List.nodup_cons.1 h.nodup).1 (List.mem_map.2 ⟨f, hf, heq⟩)
        rw [List.map_cons, List.lookup_cons, beq_eq_false_iff_ne.2 hne]
        exact ih h.tail hf

theorem map_zipWith_left {α β γ δ : Type} {f : α → β → γ} {g : γ → δ} {h : α → δ}
    (hg : ∀ a b, g (f a b) = h a) {as : List α} {bs : List β} (hlen : bs.length = as.length) :
    (List.zipWith f as bs).map g = as.map h := by
  induction as generalizing bs with
  | nil => rfl
  | cons a as ih =>
      obtain ⟨b, bs, rfl⟩ := List.exists_cons_of_length_eq_add_one hlen
      rw [List.zipWith_cons_cons, List.map_cons, List.map_cons, hg, ih (Nat.succ.inj hlen)]

theorem map_zipWith_right {α β γ δ : Type} {f : α → β → γ} {g : γ → δ} {h : β → δ}
    (hg : ∀ a b, g (f a b) = h b) {as : List α} {bs : List β} (hlen : bs.length = as.length) :
    (List.zipWith f as bs).map g = bs.map h := by
  rw [List.zipWith_comm]
  exact map_zipWith_left (fun b a => hg a b) hlen.symm

namespace Model

@[simp] theorem length_identifiers (m : Model) : m.identifiers.length = m.properties.length := by
  rw [identifiers, length_freshNames, List.length_map]

theorem map_name_fields (p : Platform) (m : Model) :
    (m.fields p).map (·.name) = m.identifiers := by
  have hright := map_zipWith_right (f := CodeField.ofProperty p) (g := (·.name)) (h := id)
    (fun _ _ => rfl) m.length_identifiers
  rw [fields, hright, List.map_id]

theorem wellNamed_fields (p : Platform) (m : Model) : WellNamed (m.fields p) := by
  constructor
  · intro f hf
    have hname : f.name ∈ m.identifiers := by
      rw [← map_name_fields p]
      exact List.mem_map_of_mem hf
    exact allWord_of_mem_freshNames hname
  · rw [map_name_fields]
    exact (nodup_freshNames [] _).1

/-- The key and the optionality of each property. -/
def readFields (m : Model) : List Reader.ReadField :=
  m.properties.map fun prop => ⟨prop.name, prop.isOptional⟩

/-- What is made of the properties field by field is made of them directly. -/
theorem map_fields {β : Type} {p : Platform} {g : CodeField → β} {h : Property → β}
    (hg : ∀ prop name, g (CodeField.ofProperty p prop name) = h prop) (m : Model) :
    (m.fields p).map g = m.properties.map h :=
  map_zipWith_left hg m.length_identifiers

theorem map_type_fields (p : Platform) (m : Model) :
    (m.fields p).map (·.type) = m.properties.map (·.spelling p) :=
  m.map_fields fun _ _ => rfl

/-- Each field is that of a property. -/
theorem exists_of_mem_fields {p : Platform} {m : Model} {f : CodeField} (h : f ∈ m.fields p) :
    ∃ prop ∈ m.properties, ∃ name, f = CodeField.ofProperty p prop name := by
  rw [fields, ← List.map_uncurry_zip_eq_zipWith] at h
  obtain ⟨⟨prop, name⟩, hmem, rfl⟩ := List.mem_map.1 h
  exact ⟨prop, (List.of_mem_zip hmem).1, name, rfl⟩

/-- The descriptions that stand in comments. -/
def descriptions (m : Model) : List String :=
  m.description.toList ++ m.properties.filterMap (·.description)

/-- The name is one, the types are types, and the descriptions leave the comments closed that they
stand in. In Swift a comment ends with its line. -/
structure IsLegible (p : Platform) (m : Model) : Prop where
  name : Reader.isBareName m.name.toList = true
  type : ∀ prop ∈ m.properties, Text.IsType prop.type
  comment : p ≠ .ios → ∀ text ∈ m.descriptions,
    Lines.Balanced (Lines.marks (p == .android) text.toList)

namespace IsLegible

variable {p : Platform} {m : Model}

theorem isType_fields (h : m.IsLegible p) : ∀ f ∈ m.fields p, Text.IsType f.type := by
  intro f hf
  obtain ⟨prop, hprop, name, rfl⟩ := exists_of_mem_fields hf
  exact TypeName.isType_field (h.type prop hprop) p prop.isArray prop.format

theorem balanced_description (h : m.IsLegible p) (hp : p ≠ .ios) :
    Lines.Balanced (Lines.marks (p == .android) (m.description.getD "").toList) := by
  cases hd : m.description with
  | none => rfl
  | some text => exact h.comment hp text (by simp [descriptions, hd])

theorem balanced_property (h : m.IsLegible p) (hp : p ≠ .ios) {prop : Property}
    (hprop : prop ∈ m.properties) :
    Lines.Balanced (Lines.marks (p == .android) (prop.description.getD "").toList) := by
  cases hd : prop.description with
  | none => rfl
  | some text =>
      refine h.comment hp text (List.mem_append_right _ ?_)
      exact List.mem_filterMap.2 ⟨prop, hprop, hd⟩

end IsLegible

end Model

end SpecForge
