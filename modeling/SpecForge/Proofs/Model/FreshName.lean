import Mathlib.Data.List.Nodup
import Std.Data.String.ToNat
import SpecForge.Model.Field
import SpecForge.Proofs.Name

/-!
# Fresh names

The names of fields are made one after the other. Each is the first candidate that is not taken, and
there is always one, since there are more candidates than taken names. So the names of a model are
different from each other, and all of them consist of word characters.
-/

namespace SpecForge

/-- The candidates for a name: the base, and the base with a number from two on. -/
def candidates (count : Nat) (base : String) : List String :=
  base :: (List.range count).map fun i => base ++ toString (i + 2)

theorem freshName_eq (taken : List String) (base : String) :
    freshName taken base =
      ((candidates taken.length base).find? fun name => !taken.contains name).getD base := rfl

theorem numbered_injective (base : String) {m n : Nat}
    (h : base ++ toString m = base ++ toString n) : m = n := by
  have hl := congrArg String.toList h
  rw [String.toList_append, String.toList_append] at hl
  exact Nat.repr_injective (String.toList_injective (List.append_cancel_left hl))

theorem ne_numbered (base : String) (n : Nat) : base ≠ base ++ toString n := by
  intro h
  have hl := congrArg String.toList h
  rw [String.toList_append, List.self_eq_append_right, Nat.toString_eq_repr,
    Nat.toList_repr] at hl
  exact Nat.toDigits_ne_nil hl

theorem nodup_candidates (count : Nat) (base : String) : (candidates count base).Nodup := by
  refine List.nodup_cons.2 ⟨?_, ?_⟩
  · intro h
    obtain ⟨i, _, hi⟩ := List.mem_map.1 h
    exact ne_numbered base (i + 2) hi.symm
  · refine List.Nodup.map ?_ List.nodup_range
    intro i j hij
    have := numbered_injective base hij
    omega

/-- More candidates than names that are taken: one of them is free. -/
theorem exists_candidate_not_mem (taken : List String) (base : String) :
    ∃ name ∈ candidates taken.length base, name ∉ taken := by
  by_contra hall
  simp only [not_exists, not_and, not_not] at hall
  have hle := (nodup_candidates taken.length base).length_le_of_subset hall
  rw [candidates, List.length_cons, List.length_map, List.length_range] at hle
  exact Nat.not_succ_le_self _ hle

theorem freshName_mem_candidates (taken : List String) (base : String) :
    freshName taken base ∈ candidates taken.length base := by
  rw [freshName_eq]
  cases h : (candidates taken.length base).find? fun name => !taken.contains name with
  | none => simp [candidates]
  | some name => exact List.mem_of_find?_eq_some h

theorem freshName_not_mem (taken : List String) (base : String) :
    freshName taken base ∉ taken := by
  rw [freshName_eq]
  cases h : (candidates taken.length base).find? fun name => !taken.contains name with
  | none =>
      obtain ⟨name, hc, hn⟩ := exists_candidate_not_mem taken base
      exact absurd (List.find?_eq_none.1 h name hc) (by simpa using hn)
  | some name => simpa using List.find?_some h

@[simp] theorem length_freshNames (taken keys : List String) :
    (freshNames taken keys).length = keys.length := by
  induction keys generalizing taken with
  | nil => rfl
  | cons key keys ih => simp [freshNames, ih]

/-- No name is made twice, and none is one of those that were taken. -/
theorem nodup_freshNames (taken keys : List String) :
    (freshNames taken keys).Nodup ∧ ∀ name ∈ freshNames taken keys, name ∉ taken := by
  induction keys generalizing taken with
  | nil => simp [freshNames]
  | cons key keys ih =>
      obtain ⟨hn, ht⟩ := ih (freshName taken (Name.toIdentifier key) :: taken)
      refine ⟨List.nodup_cons.2 ⟨fun h => ht _ h (by simp), hn⟩, ?_⟩
      intro name hname
      rcases List.mem_cons.1 hname with rfl | hname
      · exact freshName_not_mem taken _
      · exact fun h => ht name hname (List.mem_cons_of_mem _ h)

theorem allWord_numbered {base : String} (h : Name.AllWord base.toList) (n : Nat) :
    Name.AllWord (base ++ toString n).toList := by
  intro c hc
  rw [String.toList_append, Nat.toString_eq_repr, Nat.toList_repr] at hc
  rcases List.mem_append.1 hc with hc | hc
  · exact h c hc
  · have hd := Nat.isDigit_of_mem_toDigits (by decide) (by decide) hc
    simp only [Char.isDigit, Bool.and_eq_true, decide_eq_true_eq] at hd
    have : Text.isAsciiDigit c = true := by
      simp only [Text.isAsciiDigit, Bool.and_eq_true, decide_eq_true_eq]
      exact hd
    simp [Name.isWordChar, this]

/-- What is true of the base, with any number behind it or without one, is true of the name. -/
theorem of_freshName {P : String → Prop} {base : String} (hbase : P base)
    (hnumbered : ∀ n : Nat, P (base ++ toString n)) (taken : List String) :
    P (freshName taken base) := by
  rcases List.mem_cons.1 (freshName_mem_candidates taken base) with hb | hb
  · rwa [hb]
  · obtain ⟨i, _, hi⟩ := List.mem_map.1 hb
    rw [← hi]
    exact hnumbered (i + 2)

theorem of_mem_freshNames {P : String → Prop}
    (h : ∀ taken key, P (freshName taken (Name.toIdentifier key))) {taken keys : List String}
    {name : String} (hname : name ∈ freshNames taken keys) : P name := by
  induction keys generalizing taken with
  | nil => exact absurd hname List.not_mem_nil
  | cons key keys ih =>
      rcases List.mem_cons.1 hname with rfl | hname
      · exact h taken key
      · exact ih hname

theorem allWord_freshName (taken : List String) {base : String} (h : Name.AllWord base.toList) :
    Name.AllWord (freshName taken base).toList :=
  of_freshName (P := fun name => Name.AllWord name.toList) h (allWord_numbered h) taken

theorem allWord_of_mem_freshNames {taken keys : List String} {name : String}
    (h : name ∈ freshNames taken keys) : Name.AllWord name.toList :=
  of_mem_freshNames (P := fun name => Name.AllWord name.toList)
    (fun taken key => allWord_freshName taken (Name.allWord_toIdentifier key)) h

end SpecForge
