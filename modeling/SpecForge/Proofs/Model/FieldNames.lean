import Mathlib.Order.Bounds.Basic
import SpecForge.Proofs.Model.Field
import SpecForge.Proofs.Name.Identifier

/-!
# The names of the properties of a model

A property is named by the identifier that is made from its key. If an earlier property has this
name already, numbers are tried behind it, from two on and one after the other, until a name is
found that no earlier property has. The numbers are not bounded, but only finitely many names are
taken, so the search comes to an end. What it finds is the least number there is, and since every
name avoids all earlier ones, no two properties have the same name.
-/

namespace SpecForge

/-! ### The search for a name -/

/-- The search for a name that is not taken, with the number that is tried next: a name that is free
is found, and otherwise the search goes on with the number behind the base. -/
inductive Search (taken : List String) (base : String) : String → Nat → String → Prop
  | found {name : String} {n : Nat} (h : name ∉ taken) : Search taken base name n name
  | next {name result : String} {n : Nat} (h : name ∈ taken)
      (hnext : Search taken base (base ++ toString n) (n + 1) result) :
      Search taken base name n result

/-- A name is the base if that is free, and otherwise the base with the least number from two on
with which it is free. -/
structure IsFirstFree (taken : List String) (base name : String) : Prop where
  eq_base_iff : name = base ↔ base ∉ taken
  numbered : base ∈ taken →
    ∃ n, IsLeast {k : Nat | 2 ≤ k ∧ base ++ toString k ∉ taken} n ∧ name = base ++ toString n

section Search

variable {taken taken' : List String} {base name result : String} {n : Nat}

theorem Search.unique {other : String} (h : Search taken base name n result)
    (ho : Search taken base name n other) : result = other := by
  induction h with
  | found hfree =>
      cases ho with
      | found _ => rfl
      | next htaken _ => exact absurd htaken hfree
  | next htaken _ ih =>
      cases ho with
      | found hfree => exact absurd htaken hfree
      | next _ hnext => exact ih hnext

/-- The search goes on up to the first number that is free. -/
theorem search_numbered {m : Nat} (hle : n ≤ m) (hfree : base ++ toString m ∉ taken)
    (htaken : ∀ k, n ≤ k → k < m → base ++ toString k ∈ taken) :
    Search taken base (base ++ toString n) (n + 1) (base ++ toString m) := by
  obtain ⟨d, rfl⟩ := Nat.exists_eq_add_of_le hle
  induction d generalizing n with
  | zero => exact .found hfree
  | succ d ih =>
      have hnext : n + (d + 1) = n + 1 + d := by omega
      rw [hnext] at hfree htaken ⊢
      refine .next (htaken n le_rfl (by omega)) (ih (by omega) hfree fun k hk hkd => ?_)
      exact htaken k (by omega) hkd

theorem IsFirstFree.search (h : IsFirstFree taken base name) : Search taken base base 2 name := by
  by_cases hbase : base ∈ taken
  · obtain ⟨n, ⟨⟨htwo, hfree⟩, hleast⟩, rfl⟩ := h.numbered hbase
    refine .next hbase (search_numbered htwo hfree fun k hk hkn => ?_)
    by_contra hk'
    exact absurd (hleast ⟨hk, hk'⟩) (by omega)
  · rw [h.eq_base_iff.2 hbase]
    exact .found hbase

/-- What is free does not depend on the order of the names that are taken. -/
theorem IsFirstFree.congr (hsame : ∀ s, s ∈ taken ↔ s ∈ taken')
    (h : IsFirstFree taken base name) : IsFirstFree taken' base name := by
  obtain ⟨hbase, hnumbered⟩ := h
  simp only [hsame] at hbase hnumbered
  exact ⟨hbase, hnumbered⟩

theorem freshName_of_not_mem (h : base ∉ taken) : freshName taken base = base := by
  rw [freshName_eq, candidates, List.find?_cons_of_pos (by simpa using h)]
  rfl

/-- There are more candidates than names that are taken, so the first one that is free is found. -/
theorem exists_freshName_numbered (h : base ∈ taken) :
    ∃ i, freshName taken base = base ++ toString (i + 2) ∧ (List.range taken.length).find?
      (fun j => !taken.contains (base ++ toString (j + 2))) = some i := by
  obtain ⟨name, hname, hfree⟩ := exists_candidate_not_mem taken base
  obtain ⟨i, hi, rfl⟩ : ∃ i ∈ List.range taken.length, base ++ toString (i + 2) = name := by
    rcases List.mem_cons.1 hname with rfl | hnumbered
    · exact absurd h hfree
    · exact List.mem_map.1 hnumbered
  obtain ⟨j, hj⟩ : ∃ j, (List.range taken.length).find?
      (fun j => !taken.contains (base ++ toString (j + 2))) = some j := by
    rw [← Option.isSome_iff_exists, List.find?_isSome]
    exact ⟨i, hi, by simpa using hfree⟩
  have hfind : ((List.range taken.length).map fun j => base ++ toString (j + 2)).find?
      (fun name => !taken.contains name) = some (base ++ toString (j + 2)) := by
    rw [List.find?_map]
    exact congrArg (Option.map _) hj
  refine ⟨j, ?_, hj⟩
  rw [freshName_eq, candidates, List.find?_cons_of_neg (by simpa using h), hfind]
  rfl

theorem isFirstFree_freshName (taken : List String) (base : String) :
    IsFirstFree taken base (freshName taken base) := by
  by_cases hbase : base ∈ taken
  · obtain ⟨i, hname, hfind⟩ := exists_freshName_numbered hbase
    obtain ⟨hfree, _, hbefore⟩ := List.find?_range_eq_some.1 hfind
    rw [hname]
    refine ⟨iff_of_false (ne_numbered base (i + 2)).symm (not_not.2 hbase), fun _ => ?_⟩
    refine ⟨i + 2, ⟨⟨by omega, by simpa using hfree⟩, ?_⟩, rfl⟩
    rintro k ⟨htwo, hk⟩
    by_contra hlt
    have htaken := hbefore (k - 2) (by omega)
    rw [Nat.sub_add_cancel htwo] at htaken
    exact hk (by simpa using htaken)
  · have hname := freshName_of_not_mem hbase
    exact ⟨iff_of_true hname hbase, fun h => absurd h hbase⟩

/-- The search ends, and with nothing else. -/
theorem IsFirstFree.search_iff (h : IsFirstFree taken base name) :
    Search taken base base 2 result ↔ result = name := by
  constructor
  · exact fun hs => hs.unique h.search
  · rintro rfl
    exact h.search

end Search

/-! ### One name after the other -/

/-- The names for the keys behind some others avoid the names of these. -/
theorem freshNames_append (taken front back : List String) :
    freshNames taken (front ++ back) =
      freshNames taken front ++ freshNames ((freshNames taken front).reverse ++ taken) back := by
  induction front generalizing taken with
  | nil => rfl
  | cons key front ih =>
      rw [List.cons_append, freshNames, ih, freshNames, List.cons_append, List.reverse_cons,
        List.append_assoc, List.singleton_append]

theorem isFieldName_numbered {base : String} (h : Name.IsFieldName base.toList) (n : Nat) :
    Name.IsFieldName (base ++ toString n).toList := by
  obtain ⟨c, rest, hbase, hc, hrest⟩ := h
  have hword : Name.AllWord base.toList := by
    rw [hbase]
    refine List.forall_mem_cons.2 ⟨?_, hrest⟩
    rcases hc with hsmall | rfl
    · exact Name.isWordChar_of_isPlain (Name.isPlain_of_small hsmall)
    · decide
  have hnumbered := allWord_numbered hword n
  rw [String.toList_append, hbase, List.cons_append] at hnumbered ⊢
  exact ⟨c, _, rfl, hc, fun d hd => hnumbered d (List.mem_cons_of_mem c hd)⟩

theorem isFieldName_of_mem_freshNames {taken keys : List String} {name : String}
    (h : name ∈ freshNames taken keys) : Name.IsFieldName name.toList := by
  refine of_mem_freshNames (P := fun name => Name.IsFieldName name.toList) (fun taken key => ?_) h
  have hbase := Name.isFieldName_toIdentifier key
  exact of_freshName (P := fun name => Name.IsFieldName name.toList) hbase
    (isFieldName_numbered hbase) taken

namespace Model

/-- The keys of the properties with their names. -/
def nameTable (m : Model) : List (String × String) := (m.properties.map (·.name)).zip m.identifiers

/-- The name of a property stands where the property stands, and is made after those before it. -/
theorem exists_identifiers_eq {m : Model} {front back : List Property} {prop : Property}
    (h : m.properties = front ++ prop :: back) :
    ∃ before after, before.length = front.length ∧ m.identifiers =
      before ++ freshName before.reverse (Name.toIdentifier prop.name) :: after := by
  refine ⟨freshNames [] (front.map (·.name)), ?_⟩
  rw [identifiers, h, List.map_append, freshNames_append, List.append_nil, List.map_cons,
    freshNames, length_freshNames, List.length_map]
  exact ⟨_, rfl, rfl⟩

/-- In a model whose properties have different keys the name of each is found under its key. -/
theorem lookup_nameTable {m : Model} (h : (m.properties.map (·.name)).Nodup)
    {front back : List Property} {prop : Property} (hprop : m.properties = front ++ prop :: back)
    {before after : List String} {name : String} (hlen : before.length = front.length)
    (hnames : m.identifiers = before ++ name :: after) :
    m.nameTable.lookup prop.name = some name := by
  have hzip : m.nameTable = (front.map (·.name)).zip before ++
      (prop.name, name) :: (back.map (·.name)).zip after := by
    rw [nameTable, hprop, hnames, List.map_append, List.zip_append (by simp [hlen])]
    rfl
  have hfront : ((front.map (·.name)).zip before).lookup prop.name = none := by
    rw [List.lookup_eq_none_iff]
    rintro ⟨key, other⟩ hmem
    rw [hprop, List.map_append, List.map_cons, List.nodup_append] at h
    simpa using (h.2.2 key (List.of_mem_zip hmem).1 prop.name List.mem_cons_self).symm
  rw [hzip, List.lookup_append, hfront, List.lookup_cons_self]
  rfl

theorem nodup_name_of_distinct {m m' : Model} (h : m.distinct = .ok m') :
    (m.properties.map (·.name)).Nodup := by
  rw [distinct] at h
  split at h
  · cases h
  · rename_i hnone
    exact ((firstRepeated_eq_none_iff [] _).1 hnone).1

/-- The names of a model whose properties have different keys, which all models have that are made
from a schema. Each property has one name under its key, the names are different, and each is the
end of a search among the names before it: the identifier of the key itself if no earlier property
has this name, and otherwise that identifier with the least number from two on that makes a name
which no earlier property has. -/
theorem identifiers_firstFree {m : Model} (h : m.distinct = .ok m) :
    m.nameTable.map Prod.fst = m.properties.map (·.name) ∧
    m.nameTable.map Prod.snd = m.identifiers ∧
    (m.properties.map (·.name)).Nodup ∧ m.identifiers.Nodup ∧
    (∀ name ∈ m.identifiers, Name.IsFieldName name.toList) ∧
    ∀ front prop back, m.properties = front ++ prop :: back →
      ∃ before name after, m.identifiers = before ++ name :: after ∧
        before.length = front.length ∧ m.nameTable.lookup prop.name = some name ∧
        (∀ result, Search before (Name.toIdentifier prop.name) (Name.toIdentifier prop.name) 2
          result ↔ result = name) ∧
        IsFirstFree before (Name.toIdentifier prop.name) name := by
  have hkeys := nodup_name_of_distinct h
  have hlen : (m.properties.map (·.name)).length = m.identifiers.length := by simp
  refine ⟨List.map_fst_zip hlen.le, List.map_snd_zip hlen.ge, hkeys, (nodup_freshNames [] _).1,
    fun name hname => isFieldName_of_mem_freshNames hname, fun front prop back hprop => ?_⟩
  obtain ⟨before, after, hbefore, hnames⟩ := exists_identifiers_eq hprop
  have hfree := (isFirstFree_freshName before.reverse (Name.toIdentifier prop.name)).congr
    fun s => List.mem_reverse
  exact ⟨before, _, after, hnames, hbefore, lookup_nameTable hkeys hprop hbefore hnames,
    fun _ => hfree.search_iff, hfree⟩

/-- A model with a key that becomes the name of another one with a number. -/
def crowdedModel : Model where
  name := "Crowd"
  description := none
  properties := ["x", "X", "x2", "2fa"].map fun key =>
    ⟨key, "string", none, false, false, none, .null⟩

theorem identifiers_crowdedModel : crowdedModel.distinct = .ok crowdedModel ∧
    crowdedModel.nameTable = [("x", "x"), ("X", "x2"), ("x2", "x22"), ("2fa", "_2fa")] ∧
    IsFirstFree ["x", "x2"] "x2" "x22" := by
  have hdistinct : crowdedModel.distinct = .ok crowdedModel := rfl
  have hnames : crowdedModel.identifiers = ["x", "x2", "x22", "_2fa"] := by
    decide +kernel
  obtain ⟨_, _, _, _, _, hall⟩ := identifiers_firstFree hdistinct
  obtain ⟨before, name, after, heq, hlen, _, _, hfree⟩ :=
    hall (crowdedModel.properties.take 2) _ _ rfl
  obtain ⟨first, second, rfl⟩ := List.length_eq_two.1 hlen
  rw [hnames] at heq
  cases heq
  have hbase : Name.toIdentifier "x2" = "x2" := by
    decide +kernel
  exact ⟨hdistinct, by decide +kernel, hbase ▸ hfree⟩

end Model

end SpecForge
