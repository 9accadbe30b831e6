import SpecForge.Proofs.Name

/-!
# Letters in two cases

Two characters are one letter if they have the same lower-case form or the same upper-case form. So
a ligature is not the same letter as one of those that it is written as in upper case. The forms
beyond ASCII are told by tables. A range of characters that no run of a table leads to is met by
nothing but its own characters, expansions apart.
-/

namespace SpecForge.Text

/-- Are these one letter, in the same case or in both? -/
def SameLetter (c d : Char) : Prop := lowerChar c = lowerChar d ∨ upperChar c = upperChar d

instance (c d : Char) : Decidable (SameLetter c d) :=
  inferInstanceAs (Decidable (_ ∨ _))

namespace Case

/-- No run leads from a character beyond ASCII into the ranges. -/
def Run.Misses (rs : Ranges) (r : Run) : Prop :=
  r.last < 128 ∨ ∀ s ∈ rs, (r.last : Int) + r.delta < s.1 ∨ (s.2 : Int) < r.first + r.delta

instance (rs : Ranges) (r : Run) : Decidable (r.Misses rs) :=
  inferInstanceAs (Decidable (_ ∨ _))

theorem exists_of_covers_ofNat {rs : Ranges} (hpos : ∀ s ∈ rs, 0 < s.1) {n : Nat}
    (h : rs.covers (Char.ofNat n) = true) : ∃ s ∈ rs, s.1 ≤ n ∧ n ≤ s.2 := by
  obtain ⟨s, hs, hlow, hhigh⟩ := (Ranges.covers_iff rs _).1 h
  by_cases hn : n.isValidChar
  · have hchar : Char.ofNat n = Char.ofNatAux n hn := dif_pos hn
    rw [hchar] at hlow hhigh
    exact ⟨s, hs, hlow, hhigh⟩
  · have hchar : Char.ofNat n = '\x00' := dif_neg hn
    rw [hchar] at hlow
    exact absurd (hpos s hs) (Nat.not_lt.2 hlow)

/-- A character in ranges that are missed is the image of itself, or it stands in an expansion. -/
theorem eq_or_expanded {rs : Ranges} (hpos : ∀ s ∈ rs, 0 < s.1) {runs : List Run}
    (hruns : ∀ r ∈ runs, r.Misses rs) {expansions : List (Nat × List Nat)} {c x : Char}
    (hc : 128 ≤ c.toNat) (hx : rs.covers x = true) (h : x ∈ image runs expansions c) :
    x = c ∨ ∃ e ∈ expansions, image runs expansions c = e.2.map Char.ofNat := by
  rw [image] at h ⊢
  split at h
  · rename_i cs hcs
    exact .inr ⟨_, mem_of_lookup_eq_some hcs, rfl⟩
  · left
    rw [List.mem_singleton] at h
    cases hfound : runs.findSome? (Run.image? · c) with
    | none =>
        rw [h, hfound]
        rfl
    | some y =>
        rw [hfound, Option.getD_some] at h
        subst h
        obtain ⟨r, hr, himage⟩ := List.exists_of_findSome?_eq_some hfound
        rw [Run.image?] at himage
        split at himage
        · rename_i hin
          cases himage
          simp only [Bool.and_eq_true, decide_eq_true_iff] at hin
          obtain ⟨s, hs, hlow, hhigh⟩ := exists_of_covers_ofNat hpos hx
          have hstart := hpos s hs
          rcases hruns r hr with hascii | hmisses
          · omega
          · have hmiss := hmisses s hs
            omega
        · cases himage

end Case

end SpecForge.Text
