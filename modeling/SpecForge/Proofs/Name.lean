import SpecForge.Name

/-!
# The characters of identifiers

An identifier that is made from a text consists of ASCII letters, ASCII digits and underscores,
whatever the text is.
-/

namespace SpecForge

open Text

theorem mem_of_lookup_eq_some {α β : Type} [BEq α] [LawfulBEq α] {table : List (α × β)} {key : α}
    {value : β} (h : table.lookup key = some value) : (key, value) ∈ table := by
  obtain ⟨front, back, rfl, _⟩ := List.lookup_eq_some_iff.1 h
  simp

/-- What holds of each ASCII character by its number holds of all of them. -/
theorem forall_ascii {P : Char → Prop} (hall : ∀ n < 128, P (Char.ofNat n)) {c : Char}
    (h : c.toNat < 128) : P c := by
  have hc := hall c.toNat h
  rwa [Char.ofNat_toNat] at hc

namespace Text.Case

theorem image_ne_nil {runs : List Run} {expansions : List (Nat × List Nat)}
    (h : ∀ e ∈ expansions, e.2 ≠ []) (c : Char) : image runs expansions c ≠ [] := by
  rw [image]
  split
  · rename_i cs hcs
    simpa using h _ (mem_of_lookup_eq_some hcs)
  · exact List.cons_ne_nil _ _

end Text.Case

namespace Name

/-- Word characters only. -/
def AllWord (cs : List Char) : Prop := ∀ c ∈ cs, isWordChar c = true

instance (cs : List Char) : Decidable (AllWord cs) :=
  decidable_of_iff (cs.all isWordChar = true) List.all_eq_true

theorem toNat_lt_of_isWordChar {c : Char} (h : isWordChar c = true) : c.toNat < 128 := by
  simp only [isWordChar, isAsciiLetter, isAsciiDigit, Bool.or_eq_true, Bool.and_eq_true,
    decide_eq_true_eq, beq_iff_eq] at h
  rcases h with ((⟨_, h⟩ | ⟨_, h⟩) | ⟨_, h⟩) | rfl
  · exact Nat.lt_of_le_of_lt h (by decide)
  · exact Nat.lt_of_le_of_lt h (by decide)
  · exact Nat.lt_of_le_of_lt h (by decide)
  · decide

/-- What holds of each word character among the ASCII characters holds of all of them. -/
theorem forall_isWordChar {P : Char → Prop}
    (hall : ∀ n < 128, isWordChar (Char.ofNat n) = true → P (Char.ofNat n)) {c : Char}
    (h : isWordChar c = true) : P c :=
  forall_ascii (P := fun c => isWordChar c = true → P c) hall (toNat_lt_of_isWordChar h) h

theorem upperChar_ne_nil (c : Char) : upperChar c ≠ [] := by
  rw [upperChar]
  split
  · exact List.cons_ne_nil _ _
  · exact Case.image_ne_nil (by decide) c

theorem lowerChar_ne_nil (c : Char) : lowerChar c ≠ [] := by
  rw [lowerChar]
  split
  · exact List.cons_ne_nil _ _
  · exact Case.image_ne_nil (by decide) c

/-- A word character stays one when its case is changed. -/
theorem isWordChar_changed {c : Char} (h : isWordChar c = true) :
    isWordChar c.toUpper = true ∧ isWordChar c.toLower = true := by
  refine forall_isWordChar (P := fun c =>
    isWordChar c.toUpper = true ∧ isWordChar c.toLower = true) ?_ h
  decide

theorem isWordChar_of_mem_upperChar {c d : Char} (h : isWordChar c = true)
    (hd : d ∈ upperChar c) : isWordChar d = true := by
  simp only [upperChar, toNat_lt_of_isWordChar h, if_true, List.mem_singleton] at hd
  rw [hd]
  exact (isWordChar_changed h).1

theorem isWordChar_of_mem_lowerChar {c d : Char} (h : isWordChar c = true)
    (hd : d ∈ lowerChar c) : isWordChar d = true := by
  simp only [lowerChar, toNat_lt_of_isWordChar h, if_true, List.mem_singleton] at hd
  rw [hd]
  exact (isWordChar_changed h).2

theorem AllWord.joinWords {cs : List Char} (h : AllWord cs) : AllWord (joinWords cs) := by
  induction cs using Name.joinWords.induct with
  | case1 c d rest hs ih =>
      rw [Name.joinWords, if_pos hs]
      intro x hx
      rcases List.mem_append.1 hx with hx | hx
      · exact isWordChar_of_mem_upperChar (h d (by simp)) hx
      · exact ih (fun y hy => h y (by simp [hy])) x hx
  | case2 c d rest hs ih =>
      rw [Name.joinWords, if_neg hs]
      intro x hx
      rcases List.mem_cons.1 hx with rfl | hx
      · exact h x (by simp)
      · exact ih (fun y hy => h y (List.mem_cons_of_mem c hy)) x hx
  | case3 c => exact h
  | case4 => exact h

theorem AllWord.camelChars {cs : List Char} (h : AllWord cs) : AllWord (camelChars cs) := by
  have hj := h.joinWords
  unfold Name.camelChars
  cases hw : Name.joinWords cs with
  | nil => simp [decapitalizeChars, AllWord]
  | cons c rest =>
      rw [hw] at hj
      intro x hx
      rcases List.mem_append.1 hx with hx | hx
      · exact isWordChar_of_mem_lowerChar (hj c (by simp)) hx
      · exact hj x (List.mem_cons_of_mem c hx)

theorem AllWord.capitalizeChars {cs : List Char} (h : AllWord cs) :
    AllWord (capitalizeChars cs) := by
  cases cs with
  | nil => exact h
  | cons c rest =>
      intro x hx
      rcases List.mem_append.1 hx with hx | hx
      · exact isWordChar_of_mem_upperChar (h c List.mem_cons_self) hx
      · exact h x (List.mem_cons_of_mem c hx)

theorem mem_of_mem_trim {p : Char → Bool} {cs : List Char} {c : Char} (h : c ∈ trim p cs) :
    c ∈ cs := by
  have hfront := (List.dropWhile_sublist p).subset (List.mem_reverse.1 h)
  exact (List.dropWhile_sublist p).subset (List.mem_reverse.1 hfront)

theorem allWord_cleaned (cs : List Char) : AllWord (cleaned cs) := by
  intro c hc
  obtain ⟨d, _, rfl⟩ := List.mem_map.1 (mem_of_mem_trim hc)
  split
  · assumption
  · decide

/-- An identifier made from a text has word characters only. -/
theorem allWord_identifierChars (cs : List Char) : AllWord (identifierChars cs) := by
  have hname : AllWord
      (if (cleaned cs).isEmpty then "value".toList else camelChars (cleaned cs)) := by
    split
    · decide
    · exact (allWord_cleaned cs).camelChars
  unfold identifierChars
  dsimp only
  split
  · rename_i c rest heq
    rw [heq] at hname
    split
    · intro x hx
      rcases List.mem_cons.1 hx with rfl | hx
      · decide
      · exact hname x hx
    · exact hname
  · decide

theorem allWord_toIdentifier (s : String) : AllWord (toIdentifier s).toList := by
  rw [toIdentifier, String.toList_ofList]
  exact allWord_identifierChars s.toList

end Name

end SpecForge
