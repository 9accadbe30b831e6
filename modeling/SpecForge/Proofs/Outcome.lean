import Mathlib.Data.List.Forall2
import SpecForge.Document.Shape
import SpecForge.Model.Basic

/-!
# Results that are given

A reading that goes through in steps gives a result only if every step gives one. The lemmas of this
module take such a reading apart.
-/

namespace SpecForge

theorem bind_eq_ok_iff {ε α β : Type} {x : Except ε α} {f : α → Except ε β} {b : β} :
    (x >>= f) = .ok b ↔ ∃ a, x = .ok a ∧ f a = .ok b := by
  cases x with
  | error e =>
      constructor
      · intro h
        cases h
      · rintro ⟨a, h, _⟩
        cases h
  | ok a =>
      constructor
      · intro h
        exact ⟨a, rfl, h⟩
      · rintro ⟨a', h, hf⟩
        cases h
        exact hf

/-- Two readings that go on in the same way. -/
theorem exists_of_ite_bind_eq_ok {ε α β : Type} {c : Prop} [Decidable c] {x y : Except ε α}
    {f : α → Except ε β} {b : β} (h : (if c then x >>= f else y >>= f) = .ok b) :
    ∃ a, (if c then x else y) = .ok a ∧ f a = .ok b := by
  split at h
  · rename_i hc
    rw [if_pos hc]
    exact bind_eq_ok_iff.1 h
  · rename_i hc
    rw [if_neg hc]
    exact bind_eq_ok_iff.1 h

theorem eq_ok_of_toOption {ε α : Type} {x : Except ε α} {a : α} (h : x.toOption = some a) :
    x = .ok a := by
  cases x with
  | error e => cases h
  | ok a' =>
      cases h
      rfl

/-- A reading that is computed succeeds, and its result has a property. -/
theorem exists_ok_of_any {ε α : Type} {x : Except ε α} {P : α → Prop} [DecidablePred P]
    (h : x.toOption.any (fun a => decide (P a)) = true) : ∃ a, x = .ok a ∧ P a := by
  cases x with
  | error e => cases h
  | ok a => exact ⟨a, rfl, of_decide_eq_true h⟩

theorem exists_ok_of_isSome {ε α : Type} {x : Except ε α} (h : x.toOption.isSome = true) :
    ∃ a, x = .ok a := by
  obtain ⟨a, ha⟩ := Option.isSome_iff_exists.1 h
  exact ⟨a, eq_ok_of_toOption ha⟩

/-- A reading of many items reads them one by one. -/
theorem forall₂_of_mapM_eq_ok {ε α β : Type} {f : α → Except ε β} {R : α → β → Prop} {l : List α}
    (hf : ∀ a ∈ l, ∀ b, f a = .ok b → R a b) {bs : List β} (h : l.mapM f = .ok bs) :
    List.Forall₂ R l bs := by
  induction l generalizing bs with
  | nil =>
      cases h
      exact .nil
  | cons a l ih =>
      rw [List.mapM_cons] at h
      obtain ⟨b, hb, h⟩ := bind_eq_ok_iff.1 h
      obtain ⟨bs', hbs, h⟩ := bind_eq_ok_iff.1 h
      cases h
      have hrest := ih (fun a' ha' => hf a' (List.mem_cons_of_mem a ha')) hbs
      exact .cons (hf a List.mem_cons_self b hb) hrest

/-- Each item on the right belongs to one on the left. -/
theorem exists_of_forall₂_of_mem {α β : Type} {R : α → β → Prop} {as : List α} {bs : List β}
    (h : List.Forall₂ R as bs) {b : β} (hb : b ∈ bs) : ∃ a ∈ as, R a b := by
  induction h with
  | nil => exact absurd hb List.not_mem_nil
  | cons hab _ ih =>
      rcases List.mem_cons.1 hb with rfl | hb
      · exact ⟨_, List.mem_cons_self, hab⟩
      · obtain ⟨a, ha, hr⟩ := ih hb
        exact ⟨a, List.mem_cons_of_mem _ ha, hr⟩

theorem exists_of_forall₂_singleton {α β : Type} {R : α → β → Prop} {a : α} {bs : List β}
    (h : List.Forall₂ R [a] bs) : ∃ b, bs = [b] ∧ R a b := by
  obtain ⟨b, rest, hab, hnil, rfl⟩ := List.forall₂_cons_left_iff.1 h
  rw [List.forall₂_nil_left_iff.1 hnil]
  exact ⟨b, rfl, hab⟩

theorem map_eq_map_of_forall₂ {α β γ : Type} {f : α → γ} {g : β → γ} {as : List α} {bs : List β}
    (h : List.Forall₂ (fun a b => g b = f a) as bs) : bs.map g = as.map f := by
  induction h with
  | nil => rfl
  | cons hab _ ih => rw [List.map_cons, List.map_cons, hab, ih]

theorem mapM_eq_ok_iff_forall₂ {ε α β : Type} {f : α → Except ε β} {l : List α} {bs : List β} :
    l.mapM f = .ok bs ↔ List.Forall₂ (fun a b => f a = .ok b) l bs := by
  constructor
  · exact forall₂_of_mapM_eq_ok fun _ _ _ => id
  · intro h
    induction h with
    | nil => rfl
    | cons ha _ ih =>
        rw [List.mapM_cons, ha, ih]
        rfl

theorem mapM_eq_some_iff_forall₂ {α β : Type} {f : α → Option β} {l : List α} {bs : List β} :
    l.mapM f = some bs ↔ List.Forall₂ (fun a b => f a = some b) l bs := by
  induction l generalizing bs with
  | nil => simp [eq_comm]
  | cons a l ih =>
      rw [List.mapM_cons, Option.bind_eq_bind, Option.bind_eq_some_iff, List.forall₂_cons_left_iff]
      constructor
      · rintro ⟨b, hb, h⟩
        obtain ⟨bs', hbs', h⟩ := Option.bind_eq_some_iff.1 h
        cases h
        exact ⟨b, bs', hb, ih.1 hbs', rfl⟩
      · rintro ⟨b, bs', hb, hbs', rfl⟩
        exact ⟨b, hb, Option.bind_eq_some_iff.2 ⟨bs', ih.2 hbs', rfl⟩⟩

theorem mapM_congr {ε α β : Type} {f g : α → Except ε β} {l : List α}
    (h : ∀ a ∈ l, f a = g a) : l.mapM f = l.mapM g := by
  induction l with
  | nil => rfl
  | cons a l ih =>
      rw [List.mapM_cons, List.mapM_cons, h a List.mem_cons_self,
        ih fun b hb => h b (List.mem_cons_of_mem a hb)]

/-- What belongs to a part of a list stands at the same place. -/
theorem exists_of_forall₂_append_cons {α β : Type} {R : α → β → Prop} {front back : List α} {a : α}
    {bs : List β} (h : List.Forall₂ R (front ++ a :: back) bs) :
    ∃ before b after, bs = before ++ b :: after ∧ List.Forall₂ R front before ∧ R a b ∧
      List.Forall₂ R back after := by
  induction front generalizing bs with
  | nil =>
      cases h with
      | cons ha hback => exact ⟨[], _, _, rfl, .nil, ha, hback⟩
  | cons first front ih =>
      cases h with
      | cons hfirst h =>
          obtain ⟨before, b, after, rfl, hfront, ha, hback⟩ := ih h
          exact ⟨_ :: before, b, after, rfl, .cons hfirst hfront, ha, hback⟩

theorem checked_eq_ok_iff {α : Type} {x : Except Issue α} {a : α} :
    checked x = .ok a ↔ x = .ok a := by
  cases x with
  | error i => simp [checked]
  | ok a' => simp [checked]

theorem Shape.under_eq_ok_iff {α : Type} {step : String} {x : Except Issue α} {a : α} :
    under step x = .ok a ↔ x = .ok a := by
  cases x with
  | error i => simp [under]
  | ok a' => rfl

/-- What is read where a value is given is what the value says. -/
theorem Shape.exists_of_optional_eq_ok {α : Type} {r : Reader α} {v : Value} {found : Option α}
    (hv : v ≠ .null) (h : optional r v = .ok found) : ∃ a, found = some a ∧ r v = .ok a := by
  have hread : optional r v = (r v).map some := by
    cases v with
    | null => exact absurd rfl hv
    | _ => rfl
  rw [hread] at h
  cases hr : r v with
  | error i =>
      rw [hr] at h
      cases h
  | ok a =>
      rw [hr] at h
      cases h
      exact ⟨a, rfl, rfl⟩

/-! ### Results that are given on a condition

Writing source code goes through in steps, and each step may lack something that it needs, such as
the spelling of a number. What all of them need together is known if it is known for each step. A
step that lacks something does not refuse the document, which has been accepted long before. -/

/-- Does the command refuse what is asked of it? -/
def Failure.isRefusal : Failure → Bool
  | .spec _ => true
  | .unsupported _ _ => true
  | .noGenerator _ _ => true
  | .taken _ => true
  | _ => false

/-- The result is given or missing, but not refused. -/
def NeverRefuses {α : Type} (x : Outcome α) : Prop := ∀ f, x = .error f → f.isRefusal = false

/-- The result is given if and only if something holds, and where it is not nothing is refused. -/
structure GivenIf {α : Type} (P : Prop) (x : Outcome α) : Prop where
  ok_iff : (∃ a, x = .ok a) ↔ P
  missing : NeverRefuses x

section

variable {α β : Type} {P Q : Prop} {x : Outcome α}

theorem neverRefuses_ok (a : α) : NeverRefuses (.ok a : Outcome α) := by
  intro f h
  cases h

theorem neverRefuses_error {f : Failure} (hf : f.isRefusal = false) :
    NeverRefuses (.error f : Outcome α) := by
  intro f' h
  cases h
  exact hf

theorem NeverRefuses.bind {g : α → Outcome β} (hx : NeverRefuses x)
    (hg : ∀ a, NeverRefuses (g a)) : NeverRefuses (x >>= g) := by
  cases x with
  | error f => exact neverRefuses_error (hx f rfl)
  | ok a => exact hg a

theorem NeverRefuses.map {g : α → β} (hx : NeverRefuses x) : NeverRefuses (x.map g) := by
  cases x with
  | error f => exact neverRefuses_error (hx f rfl)
  | ok a => exact neverRefuses_ok (g a)

theorem GivenIf.congr (h : GivenIf P x) (hpq : P ↔ Q) : GivenIf Q x :=
  ⟨h.ok_iff.trans hpq, h.missing⟩

theorem givenIf_ok (a : α) : GivenIf True (.ok a : Outcome α) :=
  ⟨⟨fun _ => trivial, fun _ => ⟨a, rfl⟩⟩, neverRefuses_ok a⟩

theorem givenIf_error {f : Failure} (hf : f.isRefusal = false) :
    GivenIf False (.error f : Outcome α) := by
  refine ⟨⟨?_, False.elim⟩, neverRefuses_error hf⟩
  rintro ⟨a, h⟩
  cases h

/-- What the second step needs may depend on what the first one gives. -/
theorem GivenIf.bind_exists {g : α → Outcome β} {R : α → Prop} (hx : GivenIf P x)
    (hg : ∀ a, GivenIf (R a) (g a)) : GivenIf (∃ a, x = .ok a ∧ R a) (x >>= g) := by
  cases x with
  | error f => exact (givenIf_error (hx.missing f rfl)).congr (by simp)
  | ok a => exact (hg a).congr (by simp)

theorem GivenIf.bind {g : α → Outcome β} (hx : GivenIf P x) (hg : ∀ a, GivenIf Q (g a)) :
    GivenIf (P ∧ Q) (x >>= g) := by
  refine (hx.bind_exists hg).congr ?_
  rw [← hx.ok_iff, exists_and_right]

/-- A step behind which nothing is lacking any more. -/
theorem GivenIf.bind_ok {g : α → β} (hx : GivenIf P x) :
    GivenIf P (x >>= fun a => .ok (g a)) :=
  (hx.bind fun a => givenIf_ok (g a)).congr ⟨And.left, fun hp => ⟨hp, trivial⟩⟩

theorem GivenIf.map {g : α → β} (hx : GivenIf P x) : GivenIf P (x.map g) := by
  have hmap : x.map g = x >>= fun a => .ok (g a) := by
    cases x <;> rfl
  rw [hmap]
  exact hx.bind_ok

theorem givenIf_mapM {g : α → Outcome β} {R : α → Prop} (hg : ∀ a, GivenIf (R a) (g a))
    (l : List α) : GivenIf (∀ a ∈ l, R a) (l.mapM g) := by
  induction l with
  | nil => exact (givenIf_ok []).congr (by simp)
  | cons a l ih =>
      rw [List.mapM_cons]
      have hall := (hg a).bind fun b => ih.bind fun bs => givenIf_ok (b :: bs)
      exact hall.congr (by simp)

end

end SpecForge
