import Mathlib.Data.List.Nodup
import SpecForge.Proofs.Outcome

/-!
# Readings of parts

What is read from an object comes from one of its members, and what is read from a list from its
items. The other way round, a list or a table whose parts can be read is read part by part; the
members of a table must have different keys for this, as those of a table that was read have.
-/

namespace SpecForge

namespace Value

theorem isText_self {key : String} : (str key).isText key = true := beq_self_eq_true key

theorem lookup_append (key : String) (front back : List (Value × Value)) :
    lookup key (front ++ back) = (lookup key front).or (lookup key back) := by
  induction front with
  | nil => rfl
  | cons m front ih =>
      rw [List.cons_append, lookup, lookup]
      split
      · rfl
      · exact ih

theorem lookup_eq_none {key : String} {ms : List (Value × Value)}
    (h : ∀ m ∈ ms, m.1.isText key = false) : lookup key ms = none := by
  induction ms with
  | nil => rfl
  | cons m ms ih =>
      rw [List.forall_mem_cons] at h
      rw [lookup, h.1]
      exact ih h.2

theorem mem_of_lookup {key : String} {ms : List (Value × Value)} {v : Value}
    (h : lookup key ms = some v) : ∃ m ∈ ms, m.2 = v := by
  induction ms with
  | nil => cases h
  | cons m ms ih =>
      obtain ⟨k, w⟩ := m
      rw [lookup] at h
      split at h
      · cases h
        exact ⟨(k, v), List.mem_cons_self, rfl⟩
      · obtain ⟨m, hm, hv⟩ := ih h
        exact ⟨m, List.mem_cons_of_mem _ hm, hv⟩

end Value

namespace Shape

variable {α β : Type} {r : Reader α}

/-! ## What was read -/

theorem read_of_optional {v : Value} {found : Option α} (h : optional r v = .ok found) :
    ∀ a ∈ found, r v = .ok a := by
  intro a ha
  obtain rfl | hnull := eq_or_ne v .null
  · cases h
    cases ha
  · obtain ⟨a', rfl, hread⟩ := exists_of_optional_eq_ok hnull h
    cases ha
    exact hread

variable {ms : List (Value × Value)} {key other : String}

theorem exists_of_given {default a : α} (h : given key other default r ms = .ok a) :
    a = default ∨ ∃ m ∈ ms, r m.2 = .ok a := by
  rw [given, memberOr] at h
  split at h
  · rename_i key' v hfound
    obtain ⟨key'', _, hlookup⟩ := List.exists_of_findSome?_eq_some hfound
    obtain ⟨v', hv', hpair⟩ := Option.map_eq_some_iff.1 hlookup
    cases hpair
    obtain ⟨m, hm, rfl⟩ := Value.mem_of_lookup hv'
    exact .inr ⟨m, hm, under_eq_ok_iff.1 h⟩
  · cases h
    exact .inl rfl

theorem member?_of_record {name : String} {v : Value} (h : record name v = .ok ms)
    (key : String) : v.member? key = Value.lookup key ms := by
  rw [record] at h
  split at h
  · rename_i members hcontent
    cases h
    rw [Value.member?, hcontent]
  · cases h

theorem required_eq_ok {a : α} (h : required key key r ms = .ok a) :
    ∃ v, Value.lookup key ms = some v ∧ r v = .ok a := by
  rw [required, memberOr] at h
  cases hlookup : Value.lookup key ms with
  | none =>
      simp only [List.findSome?_cons, hlookup, Option.map_none, List.findSome?_nil] at h
      cases h
  | some v =>
      simp only [List.findSome?_cons, hlookup, Option.map_some] at h
      exact ⟨v, rfl, under_eq_ok_iff.1 h⟩

/-- A member with one spelling of its key is read, or it is absent. -/
theorem given_eq_ok {default a : α} (h : given key key default r ms = .ok a) :
    (∃ v, Value.lookup key ms = some v ∧ r v = .ok a) ∨
      Value.lookup key ms = none ∧ a = default := by
  rw [given, memberOr] at h
  cases hlookup : Value.lookup key ms with
  | none =>
      simp only [List.findSome?_cons, hlookup, Option.map_none, List.findSome?_nil] at h
      cases h
      exact .inr ⟨rfl, rfl⟩
  | some v =>
      simp only [List.findSome?_cons, hlookup, Option.map_some] at h
      exact .inl ⟨v, rfl, under_eq_ok_iff.1 h⟩

theorem exists_of_possible {found : Option α} (h : possible key other r ms = .ok found) :
    ∀ a ∈ found, ∃ m ∈ ms, r m.2 = .ok a := by
  intro a ha
  rcases exists_of_given h with rfl | ⟨m, hm, hread⟩
  · cases ha
  · exact ⟨m, hm, read_of_optional hread a ha⟩

/-- The items that a list is read from. -/
def listed (v : Value) : List Value :=
  match v.content with
  | .list vs => vs
  | .set vs => vs
  | .pair a b => [a, b]
  | _ => []

theorem forall₂_of_itemsFrom {vs : List Value} {i : Nat} {as : List α}
    (h : itemsFrom r i vs = .ok as) : List.Forall₂ (fun v a => r v = .ok a) vs as := by
  induction vs generalizing i as with
  | nil =>
      cases h
      exact .nil
  | cons v vs ih =>
      obtain ⟨first, hfirst, h⟩ := bind_eq_ok_iff.1 h
      obtain ⟨rest, hrest, h⟩ := bind_eq_ok_iff.1 h
      cases h
      exact .cons (under_eq_ok_iff.1 hfirst) (ih hrest)

/-- A list is read item by item. -/
theorem forall₂_of_list {v : Value} {as : List α} (h : list r v = .ok as) :
    List.Forall₂ (fun w a => r w = .ok a) (listed v) as := by
  rw [listed]
  rw [list] at h
  cases hc : v.content with
  | list vs =>
      rw [hc] at h
      exact forall₂_of_itemsFrom h
  | set vs =>
      rw [hc] at h
      exact forall₂_of_itemsFrom h
  | pair a b =>
      rw [hc] at h
      exact forall₂_of_itemsFrom h
  | _ =>
      rw [hc] at h
      cases h

/-- The items of the list under a key. A list that is absent has none. -/
def declared (key : String) (v : Value) : List Value :=
  match v.member? key with
  | some w => listed w
  | none => []

/-- A list under a key is read item by item, also if it is absent. -/
theorem forall₂_declared {name : String} {v : Value} {as : List α} (hv : record name v = .ok ms)
    (h : given key key [] (list r) ms = .ok as) :
    List.Forall₂ (fun w a => r w = .ok a) (declared key v) as := by
  rw [declared, member?_of_record hv]
  rcases given_eq_ok h with ⟨w, hlookup, hread⟩ | ⟨hlookup, rfl⟩
  · rw [hlookup]
    exact forall₂_of_list hread
  · rw [hlookup]
    exact .nil

theorem exists_of_itemsFrom {vs : List Value} {i : Nat} {as : List α}
    (h : itemsFrom r i vs = .ok as) : ∀ a ∈ as, ∃ v ∈ vs, r v = .ok a :=
  fun _ ha => exists_of_forall₂_of_mem (forall₂_of_itemsFrom h) ha

theorem exists_of_list {v : Value} {as : List α} (h : list r v = .ok as) :
    ∀ a ∈ as, ∃ w, r w = .ok a := by
  intro a ha
  obtain ⟨w, _, hread⟩ := exists_of_forall₂_of_mem (forall₂_of_list h) ha
  exact ⟨w, hread⟩

/-! ## Tables -/

theorem putMember_of_not_mem {a : α} {members : List (String × α)}
    (h : key ∉ members.map Prod.fst) : putMember key a members = members ++ [(key, a)] := by
  induction members with
  | nil => rfl
  | cons m members ih =>
      rw [List.map_cons, List.mem_cons, not_or] at h
      have hne : ¬ (m.1 == key) = true := by
        rw [beq_iff_eq]
        exact Ne.symm h.1
      rw [putMember, if_neg hne, ih h.2]
      rfl

theorem map_fst_putMember_of_mem {a : α} {members : List (String × α)}
    (h : key ∈ members.map Prod.fst) :
    (putMember key a members).map Prod.fst = members.map Prod.fst := by
  induction members with
  | nil => exact absurd h List.not_mem_nil
  | cons m members ih =>
      rw [putMember]
      split
      · rename_i hkey
        rw [List.map_cons, List.map_cons, beq_iff_eq.1 hkey]
      · rename_i hkey
        rw [List.map_cons, List.mem_cons] at h
        have hne : key ≠ m.1 := by
          rintro rfl
          exact hkey (beq_self_eq_true _)
        rw [List.map_cons, List.map_cons, ih (h.resolve_left hne)]

theorem nodup_putMember {a : α} {members : List (String × α)}
    (h : (members.map Prod.fst).Nodup) : ((putMember key a members).map Prod.fst).Nodup := by
  by_cases hkey : key ∈ members.map Prod.fst
  · rwa [map_fst_putMember_of_mem hkey]
  · rw [putMember_of_not_mem hkey, List.map_append, List.nodup_append]
    refine ⟨h, List.nodup_singleton _, ?_⟩
    rintro name hname other hother rfl
    rw [List.map_singleton, List.mem_singleton] at hother
    rw [hother] at hname
    exact hkey hname

theorem nodup_of_tableFrom {sofar members : List (String × α)}
    (hsofar : (sofar.map Prod.fst).Nodup) (h : tableFrom r sofar ms = .ok members) :
    (members.map Prod.fst).Nodup := by
  induction ms generalizing sofar with
  | nil =>
      cases h
      exact hsofar
  | cons m ms ih =>
      obtain ⟨key, _, h⟩ := bind_eq_ok_iff.1 h
      obtain ⟨a, _, h⟩ := bind_eq_ok_iff.1 h
      exact ih (nodup_putMember hsofar) h

/-- The keys of a table that was read are different. -/
theorem nodup_of_table {v : Value} {members : List (String × α)} (h : table r v = .ok members) :
    (members.map Prod.fst).Nodup := by
  rw [table] at h
  split at h
  · have hnone : (([] : List (String × α)).map Prod.fst).Nodup := List.nodup_nil
    exact nodup_of_tableFrom hnone h
  · cases h

/-! ## What is read -/

theorem itemsFrom_map {f : β → Value} {g : β → α} {bs : List β}
    (h : ∀ b ∈ bs, r (f b) = .ok (g b)) (i : Nat) :
    itemsFrom r i (bs.map f) = .ok (bs.map g) := by
  induction bs generalizing i with
  | nil => rfl
  | cons b bs ih =>
      rw [List.forall_mem_cons] at h
      rw [List.map_cons, itemsFrom, h.1, ih h.2]
      rfl

theorem list_map {f : β → Value} {g : β → α} {bs : List β} (h : ∀ b ∈ bs, r (f b) = .ok (g b)) :
    list r (.list (bs.map f)) = .ok (bs.map g) :=
  itemsFrom_map h 0

theorem tableFrom_map {f : α → Value} {sofar members : List (String × α)}
    (hr : ∀ m ∈ members, r (f m.2) = .ok m.2) (hkeys : ((sofar ++ members).map Prod.fst).Nodup) :
    tableFrom r sofar (members.map fun m => (.str m.1, f m.2)) = .ok (sofar ++ members) := by
  induction members generalizing sofar with
  | nil => rw [List.append_nil, List.map_nil, tableFrom]
  | cons m members ih =>
      rw [List.forall_mem_cons] at hr
      have hnew : m.1 ∉ sofar.map Prod.fst := by
        rw [List.map_append, List.nodup_append] at hkeys
        exact fun hmem => hkeys.2.2 m.1 hmem m.1 List.mem_cons_self rfl
      have hmove : sofar ++ m :: members = (sofar ++ [m]) ++ members := by
        rw [List.append_assoc, List.singleton_append]
      rw [hmove] at hkeys ⊢
      rw [List.map_cons, tableFrom, hr.1, ← ih hr.2 hkeys, ← putMember_of_not_mem hnew]
      rfl

/-- A table with different keys is read as it is. -/
theorem table_record {f : α → Value} {members : List (String × α)}
    (hr : ∀ m ∈ members, r (f m.2) = .ok m.2) (hkeys : (members.map Prod.fst).Nodup) :
    table r (.record (members.map fun m => (m.1, f m.2))) = .ok members := by
  have hread : tableFrom r [] (members.map fun m => (.str m.1, f m.2)) = .ok ([] ++ members) :=
    tableFrom_map hr hkeys
  rw [table, Value.record, List.map_map]
  exact hread

end Shape

end SpecForge
