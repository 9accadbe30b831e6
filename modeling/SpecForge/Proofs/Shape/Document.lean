import SpecForge.Component.Spec
import SpecForge.Plugin.Spec
import SpecForge.Proofs.Shape.Api
import SpecForge.Proofs.Shape.Schema
import SpecForge.Proofs.Shape.Tokens

/-!
# The shapes of all documents

A specification of a component or of a plugin is checked as a whole before anything is made of it,
so that whatever is wrong with it is said in words. The numbers of a state are the only exception:
they become doubles later on. The other documents have shapes of their own that their readings want.
-/

namespace SpecForge

theorem checked_mapM {α β : Type} {g : α → Except Issue β} (l : List α) :
    checked (l.mapM g) = l.mapM fun a => checked (g a) := by
  induction l with
  | nil => rfl
  | cons a l ih =>
      simp only [List.mapM_cons, checked_bind, ih]
      rfl

namespace Component

/-- A number that is not too large for a double, or none. -/
def IsDouble : Option Decimal.Number → Prop
  | some (.int i) => ∀ negative, Decimal.Binary64.ofInt i ≠ .infinite negative
  | _ => True

/-- The numbers of a state are not too large. -/
@[mk_iff]
structure StateShape (state : StateSpec) : Prop where
  opacity : IsDouble state.opacity
  scale : IsDouble state.scale

theorem isDouble_iff {n : Option Decimal.Number} : IsDouble n ↔ ∃ x, doubleOf? n = .ok x := by
  cases n with
  | none => simp [IsDouble, doubleOf?]
  | some n =>
      cases n with
      | float x => simp [IsDouble, doubleOf?, doubleOf, Except.map]
      | int i =>
          simp only [IsDouble, doubleOf?, doubleOf]
          cases Decimal.Binary64.ofInt i <;> simp [Except.map, Shape.here]

theorem fits_normalize (name : String) (state : StateSpec) :
    Fits (StateShape state) (checked (state.normalize name)) := by
  rw [stateShape_iff, isDouble_iff, isDouble_iff]
  have hunder : ∀ (step : String) (n : Option Decimal.Number),
      Fits (∃ x, doubleOf? n = .ok x) (checked (Shape.under step (doubleOf? n))) := by
    intro step n
    apply fits_checked
    simp only [Shape.under_eq_ok_iff]
  simp only [StateSpec.normalize, checked_bind]
  refine ((hunder _ _).bind fun _ _ => (hunder _ _).bind fun _ _ => fits_ok _).congr ?_
  rw [and_true]

/-- The shape of the specification of a component: if it is one, then the numbers of its states are
not too large. -/
def SpecShape (doc : Value) : Prop :=
  ∀ component states, read doc = .ok (component, states) → ∀ s ∈ states, StateShape s.2

theorem fits_ofSpec (doc : Value) : Fits (SpecShape doc) (ofSpec doc) := by
  rw [SpecShape, ofSpec]
  cases read doc with
  | error i => exact fits_spec _ _
  | ok found =>
      obtain ⟨component, states⟩ := found
      simp only [checked_bind, checked_mapM]
      refine ((Fits.mapM fun s _ => fits_normalize s.1 s.2).bind fun _ _ => fits_ok _).congr ?_
      simp

end Component

theorem Plugin.fits_ofSpec (doc : Value) : Fits True (Plugin.ofSpec doc) := by
  rw [Plugin.ofSpec]
  cases Plugin.read doc with
  | error i => exact fits_spec True _
  | ok p => exact fits_ok p

/-- Every document that has the shape its kind wants is accepted or refused in words, and no other
document is accepted. Plugins want no shape at all. -/
theorem readings_fit (doc : Value) (name : String) :
    Fits (Model.SchemaShape doc) (Model.ofSchema doc) ∧
      Fits (Api.DocumentShape doc) (Api.ofDocument doc) ∧
      Fits (Theme.TokensShape doc) (Theme.ofTokens doc name) ∧
      Fits (Component.SpecShape doc) (Component.ofSpec doc) ∧
      Fits True (Plugin.ofSpec doc) :=
  ⟨Model.fits_ofSchema doc, Api.fits_ofDocument doc, Theme.fits_ofTokens doc name,
    Component.fits_ofSpec doc, Plugin.fits_ofSpec doc⟩

/-- A schema whose properties are listed by name. -/
def listedSchema : Value :=
  .record [("type", .str "object"), ("properties", .list [.str "id"])]

/-- Design tokens with a weight whose digits are no decimal ones. -/
def squaredTokens : Value :=
  .record [("typography", .record [("fontWeights", .record [("bold", .str "²")])])]

/-- A component with a state that is too opaque. -/
def opaqueComponent : Value :=
  .record [("component", .str "Card"), ("states",
    .record [("hidden", .record [("opacity", .int (Int.pow 10 309))])])]

/-- Does a reading fail without words? -/
def failsSilently {α : Type} : Outcome α → Bool
  | .ok _ => false
  | .error (.spec _) => false
  | .error _ => true

theorem not_reported_of_failsSilently {α : Type} {x : Outcome α} (h : failsSilently x = true) :
    ¬ Reported x := by
  intro hx
  cases x with
  | ok a => cases h
  | error f =>
      obtain ⟨fault, rfl⟩ := hx f rfl
      cases h

theorem not_reported_misshapen :
    ¬ Reported (Model.ofSchema listedSchema) ∧
      ¬ Reported (Api.ofDocument (.record [("info", .str "Orders")])) ∧
      ¬ Reported (Theme.ofTokens squaredTokens "Theme") ∧
      ¬ Reported (Component.ofSpec opaqueComponent) := by
  refine ⟨not_reported_of_failsSilently ?_, not_reported_of_failsSilently ?_,
    not_reported_of_failsSilently ?_, not_reported_of_failsSilently ?_⟩
  all_goals decide +kernel

end SpecForge
