import SpecForge.Model.Basic
import SpecForge.Proofs.Api.Endpoints

/-!
# Readings and the shapes that they want

A reading that fails should say in words what is wrong with the document. It does so as long as the
document has the right shape; a shape fits a reading if, besides, nothing else is accepted. Shapes
fit together as readings do, step by step.
-/

namespace SpecForge

/-- If a reading fails then with a fault of the document, which is reported in words. -/
def Reported {α : Type} (x : Outcome α) : Prop := ∀ f, x = .error f → ∃ fault, f = .spec fault

/-- The shape that a reading wants: whatever has it is accepted or refused in words, and whatever is
accepted has it. -/
structure Fits {α : Type} (shape : Prop) (x : Outcome α) : Prop where
  reported : shape → Reported x
  of_ok : ∀ a, x = .ok a → shape

section Fits

variable {α β : Type} {P Q : Prop} {x : Outcome α} {f : α → Outcome β}

theorem reported_ok (a : α) : Reported (.ok a : Outcome α) := by
  intro f h
  cases h

theorem reported_spec (fault : SpecFault) : Reported (.error (.spec fault) : Outcome α) := by
  intro f h
  cases h
  exact ⟨fault, rfl⟩

/-- A failure is in words or not, whatever was to be read. -/
theorem Reported.of_error {e : Failure} (h : Reported (.error e : Outcome α)) :
    Reported (.error e : Outcome β) := by
  intro f hf
  cases hf
  exact h e rfl

theorem Fits.congr (h : Fits P x) (hpq : P ↔ Q) : Fits Q x :=
  ⟨fun hq => h.reported (hpq.2 hq), fun a ha => hpq.1 (h.of_ok a ha)⟩

theorem fits_ok (a : α) : Fits True (.ok a : Outcome α) :=
  ⟨fun _ => reported_ok a, fun _ _ => trivial⟩

/-- Any shape fits a reading that is refused in words. -/
theorem fits_spec (P : Prop) (fault : SpecFault) : Fits P (.error (.spec fault) : Outcome α) := by
  refine ⟨fun _ => reported_spec fault, ?_⟩
  intro a h
  cases h

/-- What never holds fits a reading that fails. -/
theorem fits_error (e : Failure) : Fits False (.error e : Outcome α) := by
  refine ⟨False.elim, ?_⟩
  intro a h
  cases h

theorem Fits.bind (hx : Fits P x) (hf : ∀ a, x = .ok a → Fits Q (f a)) :
    Fits (P ∧ Q) (x >>= f) := by
  cases x with
  | error e =>
      refine ⟨fun h => (hx.reported h.1).of_error, ?_⟩
      intro b hb
      cases hb
  | ok a =>
      have hfa := hf a rfl
      refine ⟨fun h => hfa.reported h.2, ?_⟩
      intro b hb
      exact ⟨hx.of_ok a rfl, hfa.of_ok b hb⟩

/-- If the shape that is wanted next depends on what has been read, so does the shape of both. -/
theorem Fits.bind_ok {R : α → Prop} (hf : ∀ a, x = .ok a → Fits (R a) (f a)) :
    Fits (∃ a, x = .ok a ∧ R a) (x >>= f) := by
  cases x with
  | error e => exact (fits_error e).congr (by simp)
  | ok a => exact (hf a rfl).congr (by simp)

theorem Fits.map {g : α → β} (hx : Fits P x) : Fits P (x.map g) := by
  cases x with
  | error e =>
      refine ⟨fun h => (hx.reported h).of_error, ?_⟩
      intro b hb
      cases hb
  | ok a => exact ⟨fun _ => reported_ok (g a), fun _ _ => hx.of_ok a rfl⟩

/-- A part that is read only on a condition. -/
theorem Fits.bind_if {c : Prop} [Decidable c] {y : Outcome α} (a : α) (hx : Fits P x)
    (hy : y = .ok a) (hf : ∀ a, Fits Q (f a)) :
    Fits ((c → P) ∧ Q) (if c then x >>= f else y >>= f) := by
  by_cases hc : c
  · rw [if_pos hc]
    exact (hx.bind fun a _ => hf a).congr (by simp [hc])
  · rw [if_neg hc, hy]
    exact (hf a).congr (by simp [hc])

theorem Fits.mapM {R : α → Prop} {l : List α} (h : ∀ a ∈ l, Fits (R a) (f a)) :
    Fits (∀ a ∈ l, R a) (l.mapM f) := by
  induction l with
  | nil =>
      refine (fits_ok ([] : List β)).congr ?_
      simp
  | cons a l ih =>
      rw [List.mapM_cons]
      have hrest := ih fun a' ha' => h a' (List.mem_cons_of_mem a ha')
      have hall := (h a List.mem_cons_self).bind fun b _ => hrest.bind fun bs _ => fits_ok (b :: bs)
      refine hall.congr ?_
      simp

/-- A part of the normalized representation is never refused in words: it has to be read. -/
theorem fits_checked {r : Except Issue α} (h : P ↔ ∃ a, r = .ok a) : Fits P (checked r) := by
  cases r with
  | error i =>
      refine ⟨fun hp => ?_, ?_⟩
      · obtain ⟨a, ha⟩ := h.1 hp
        cases ha
      · intro a ha
        cases ha
  | ok a => exact ⟨fun _ => reported_ok a, fun _ _ => h.2 ⟨a, rfl⟩⟩

theorem checked_bind {r : Except Issue α} {g : α → Except Issue β} :
    checked (r >>= g) = checked r >>= fun a => checked (g a) := by
  cases r <;> rfl

end Fits

namespace Value

/-- A value that is read as a text. -/
def IsText (v : Value) : Prop := ∃ s, Shape.text v = .ok s

/-- A text, or nothing. -/
def IsTextOrNull (v : Value) : Prop := v = .null ∨ v.IsText

/-- A text that is not made of bytes. -/
def IsPlainText (v : Value) : Prop := ∃ s, v = .str s

/-- An object, or nothing of note. -/
def IsTable (v : Value) : Prop := v.isGiven = true → v.isObject = true

/-- A value with items, or nothing of note. -/
def IsSequence (v : Value) : Prop := v.isGiven = true → ∃ items, v.each = .ok items

/-- A value in which a name may be looked for. -/
def MayHold (v name : Value) : Prop := ∃ found, v.holds name = .ok found

/-- A list of texts, or nothing of note. -/
def IsTextList (v : Value) : Prop :=
  v.isGiven = true → ∃ texts, Shape.sequence Shape.text v = .ok texts

theorem isText_str (s : String) : (Value.str s).IsText := ⟨s, rfl⟩

theorem isTextOrNull_null : Value.null.IsTextOrNull := .inl rfl

theorem isTextOrNull_iff {v : Value} (h : v ≠ .null) : v.IsTextOrNull ↔ v.IsText := by
  simp [IsTextOrNull, h]

end Value

open Value

/-! ### The shapes of single steps -/

theorem fits_text {v : Value} {step : String} :
    Fits v.IsText (checked (Shape.under step (Shape.text v))) := by
  apply fits_checked
  simp only [Shape.under_eq_ok_iff, IsText]

theorem exists_optional_iff {α : Type} {r : Shape.Reader α} {v : Value} :
    (∃ a, Shape.optional r v = .ok a) ↔ v = .null ∨ ∃ a, r v = .ok a := by
  have hmap : (∃ a, (r v).map some = .ok a) ↔ ∃ a, r v = .ok a := by
    cases r v <;> simp [Except.map]
  cases v with
  | null => simp [Shape.optional]
  | _ => simpa [Shape.optional] using hmap

theorem fits_textOrNull {v : Value} {step : String} :
    Fits v.IsTextOrNull (checked (Shape.under step (Shape.optional Shape.text v))) := by
  apply fits_checked
  simp only [Shape.under_eq_ok_iff, exists_optional_iff, IsTextOrNull, IsText]

theorem fits_textList {v : Value} {step : String} :
    Fits v.IsTextList
      (checked (Shape.under step (Shape.sequence Shape.text (v.orElse (.list []))))) := by
  apply fits_checked
  simp only [Shape.under_eq_ok_iff, IsTextList, Value.orElse]
  cases v.isGiven with
  | false => simp [Shape.sequence, Value.content, Shape.itemsFrom]
  | true => simp

theorem fits_part {v : Value} {key : String} : Fits (v.isObject = true) (v.part key) := by
  rw [Value.part, Value.isObject]
  cases v.content with
  | object members => exact (fits_ok _).congr (by simp)
  | _ => exact (fits_error _).congr (by simp)

theorem fits_allMembers {v : Value} : Fits (v.isObject = true) v.allMembers := by
  rw [Value.allMembers, Value.isObject]
  cases v.content with
  | object members => exact (fits_ok members).congr (by simp)
  | _ => exact (fits_error _).congr (by simp)

/-- Where nothing is given an object takes its place. -/
theorem isObject_orElse {v : Value} : (v.orElse (.object [])).isObject = true ↔ v.IsTable := by
  rw [Value.orElse, IsTable]
  cases v.isGiven with
  | false => simp [Value.isObject, Value.content]
  | true => simp

theorem fits_partOfTable {v : Value} {key : String} :
    Fits v.IsTable ((v.orElse (.object [])).part key) :=
  fits_part.congr isObject_orElse

theorem fits_tableOf {v : Value} : Fits v.IsTable (Api.tableOf v) :=
  fits_allMembers.congr isObject_orElse

theorem fits_each {v : Value} : Fits v.IsSequence (v.orElse (.list [])).each := by
  have h : v.IsSequence ↔ ∃ items, (v.orElse (.list [])).each = .ok items := by
    rw [Value.orElse, IsSequence]
    cases v.isGiven with
    | false => simp [Value.each, Value.content]
    | true => simp
  rw [h]
  cases (v.orElse (.list [])).each with
  | error e => exact (fits_error e).congr (by simp)
  | ok items => exact (fits_ok items).congr (by simp)

theorem fits_holds {v name : Value} : Fits (v.MayHold name) (v.holds name) := by
  rw [MayHold]
  cases v.holds name with
  | error e => exact (fits_error e).congr (by simp)
  | ok found => exact (fits_ok found).congr (by simp)

theorem fits_spelled {v : Value} : Fits (v.isSpellable = true) v.spelled := by
  rw [Value.spelled]
  split
  · rename_i h
    exact (fits_ok _).congr (by simp [h])
  · rename_i h
    exact (fits_error _).congr (by simp [h])

theorem fits_asText {v : Value} : Fits v.IsPlainText v.asText := by
  rw [IsPlainText]
  cases v with
  | str s => exact (fits_ok s).congr (by simp)
  | _ => exact (fits_error _).congr (by simp)

theorem fits_propertyCheck {name type description format default : Value}
    {isOptional isArray : Bool} :
    Fits (name.IsText ∧ type.IsText ∧ description.IsTextOrNull ∧ format.IsTextOrNull)
      (Property.check name type description isOptional isArray format default) := by
  simp only [Property.check, checked_bind]
  refine (fits_text.bind fun _ _ => fits_text.bind fun _ _ => fits_textOrNull.bind fun _ _ =>
    fits_textOrNull.bind fun _ _ => fits_ok _).congr ?_
  simp

/-- A model that has been read is refused in words if two of its properties have the same name. -/
theorem fits_distinct (m : Model) : Fits True m.distinct := by
  rw [Model.distinct]
  split
  · exact fits_spec _ _
  · exact fits_ok m

theorem fits_modelCheck {name description : Value} {properties : List Property} :
    Fits (name.IsText ∧ description.IsTextOrNull) (Model.check name description properties) := by
  simp only [Model.check, checked_bind]
  refine Fits.congr (P := (name.IsText ∧ description.IsTextOrNull ∧ True) ∧ True) ?_ (by simp)
  exact (fits_text.bind fun _ _ => fits_textOrNull.bind fun _ _ => fits_ok _).bind
    fun m _ => fits_distinct m

end SpecForge
