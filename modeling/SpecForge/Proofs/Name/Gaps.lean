import Mathlib.Data.List.Chain
import SpecForge.Proofs.Name.Identifier

/-!
# Texts that an identifier is made from

What is made from a text is meant to be an identifier, so making an identifier from it once more
should not change it. That is true of all texts but those with a gap: two characters next to each
other, neither of them a letter or digit, somewhere between letters or digits. When words are
joined, the first of the two is taken for the separator and the second for the beginning of a word,
and so an underscore is left for them.
-/

namespace SpecForge.Name

open Text

/-- One of two neighbours is a letter or digit. -/
def Close (c d : Char) : Prop := isPlain c = true ∨ isPlain d = true

/-- Between letters or digits there are two neighbours that are neither. -/
def HasGap (cs : List Char) : Prop :=
  ∃ u c d v, cs = u ++ c :: d :: v ∧ ¬ Close c d ∧
    (∃ x ∈ u, isPlain x = true) ∧ ∃ y ∈ v, isPlain y = true

theorem isChain_close_cons {c : Char} (hc : isPlain c = true) {cs : List Char} :
    (c :: cs).IsChain Close ↔ cs.IsChain Close := by
  rw [List.isChain_cons]
  exact and_iff_right fun _ _ => .inl hc

/-! ### Gaps of the text and of what is left of it -/

theorem isPlain_ite_underscore (c : Char) :
    isPlain (if isWordChar c then c else '_') = isPlain c := by
  split
  · rfl
  · rename_i hc
    rw [isWordChar_eq, Bool.or_eq_true, not_or, Bool.not_eq_true] at hc
    rw [hc.1]
    decide

theorem isChain_close_underscored (cs : List Char) :
    (underscored cs).IsChain Close ↔ cs.IsChain Close := by
  rw [underscored, List.isChain_map]
  simp only [Close, isPlain_ite_underscore]
  rfl

/-- A gap is not cut off. -/
theorem HasGap.not_isChain {cs : List Char} (h : HasGap cs) : ¬ (cleaned cs).IsChain Close := by
  obtain ⟨u, c, d, v, rfl, hclose, ⟨x, hxu, hx⟩, y, hyv, hy⟩ := h
  obtain ⟨u₁, u₂, rfl⟩ := List.append_of_mem hxu
  obtain ⟨v₁, v₂, rfl⟩ := List.append_of_mem hyv
  have hsplit : u₁ ++ x :: u₂ ++ c :: d :: (v₁ ++ y :: v₂) =
      u₁ ++ x :: ((u₂ ++ c :: d :: v₁) ++ y :: v₂) := by simp
  have hpart : underscored (u₂ ++ c :: d :: v₁) <:+: cleaned (u₁ ++ x :: u₂ ++ c :: d ::
      (v₁ ++ y :: v₂)) := by
    rw [hsplit, cleaned_append_cons u₁ hx, underscored_append _ (y :: v₂), underscored_cons y,
      if_pos hy, rdropWhile_append_cons _ hy]
    exact ⟨(underscored u₁).dropWhile (· == '_') ++ [x],
      y :: (underscored v₂).rdropWhile (· == '_'), by simp⟩
  intro hchain
  have hmarked := hchain.infix hpart
  have hinner := (isChain_close_underscored _).1 hmarked
  exact hclose (List.isChain_append_cons_cons.1 hinner).2.1

/-- Two neighbours that are left of a text have letters or digits around them, and so have those
in the text that they come from. -/
theorem hasGap_of_not_isChain {cs : List Char} (h : ¬ (cleaned cs).IsChain Close) : HasGap cs := by
  rw [List.isChain_iff_forall_rel_of_append_cons_cons] at h
  push Not at h
  obtain ⟨a, b, l₁, l₂, hcs, hab⟩ := h
  have hplain : (∃ x ∈ l₁, isPlain x = true) ∧ ∃ y ∈ l₂, isPlain y = true := by
    obtain ⟨ha, hb⟩ := not_or.1 hab
    cases l₁ with
    | nil => exact absurd (ends_of_cleaned hcs).1 ha
    | cons x l₁ =>
        obtain ⟨hx, hlast⟩ := ends_of_cleaned hcs
        refine ⟨⟨x, List.mem_cons_self, hx⟩, ?_⟩
        rcases List.eq_nil_or_concat l₂ with rfl | ⟨l₂, y, rfl⟩
        · exact absurd (hlast b (by simp [List.getLast?_append])) hb
        · exact ⟨y, by simp, hlast y (by simp [List.getLast?_append, List.getLast?_cons])⟩
  -- What is left is a part of the text with underscores, which is the text sign by sign.
  obtain ⟨front, back, hparts⟩ : cleaned cs <:+: underscored cs := by
    rw [cleaned_eq]
    exact (List.rdropWhile_prefix _ _).isInfix.trans (List.dropWhile_suffix _).isInfix
  rw [hcs, underscored] at hparts
  have hmap : cs.map (fun c => if isWordChar c then c else '_') =
      (front ++ l₁) ++ a :: b :: (l₂ ++ back) := by
    rw [← hparts]
    simp
  obtain ⟨u, w, rfl, hu, hw⟩ := List.map_eq_append_iff.1 hmap
  obtain ⟨c, w', rfl, rfl, hw'⟩ := List.map_eq_cons_iff.1 hw
  obtain ⟨d, v, rfl, rfl, hv⟩ := List.map_eq_cons_iff.1 hw'
  have hmem : ∀ {l : List Char} {x : Char},
      x ∈ l.map (fun c => if isWordChar c then c else '_') → isPlain x = true →
        ∃ y ∈ l, isPlain y = true := by
    intro l x hx hplain
    obtain ⟨y, hy, rfl⟩ := List.mem_map.1 hx
    exact ⟨y, hy, (isPlain_ite_underscore y).symm.trans hplain⟩
  obtain ⟨⟨x, hxl, hx⟩, y, hyl, hy⟩ := hplain
  refine ⟨u, c, d, v, rfl, ?_, hmem (hu ▸ List.mem_append_right front hxl) hx,
    hmem (hv ▸ List.mem_append_left back hyl) hy⟩
  rwa [Close, isPlain_ite_underscore, isPlain_ite_underscore] at hab

theorem isChain_cleaned_iff (cs : List Char) : (cleaned cs).IsChain Close ↔ ¬ HasGap cs :=
  ⟨fun hchain hgap => hgap.not_isChain hchain, fun h => by_contra fun hchain =>
    h (hasGap_of_not_isChain hchain)⟩

/-! ### What joining words leaves of a gap -/

/-- Joined words have no separators left in them if no two of them stood next to each other. -/
theorem isPlain_joinWords_iff {cs : List Char} (h : AllWord cs)
    (hlast : ∀ c ∈ cs.getLast?, isPlain c = true) :
    (∀ c ∈ joinWords cs, isPlain c = true) ↔ cs.IsChain Close := by
  induction cs using joinWords.induct with
  | case1 c d rest hs ih =>
      have hrest := ih (fun e he => h e (by simp [he]))
        (fun e he => hlast e (by simp [List.getLast?_cons, Option.mem_def.1 he]))
      have hplain : isPlain '_' = false := by decide
      obtain rfl := eq_underscore_of_isSeparator (h c (by simp)) (Bool.and_eq_true_iff.1 hs).1
      rw [joinWords, if_pos hs]
      by_cases hd : isPlain d = true
      · obtain ⟨e, he, hupper⟩ := exists_upperChar hd
        rw [hupper, List.singleton_append, List.forall_mem_cons, and_iff_right he, hrest,
          List.isChain_cons_cons, isChain_close_cons hd, and_iff_right (.inr hd)]
      · obtain rfl : d = '_' := by
          by_contra hne
          exact hd (isPlain_of_isWordChar (h d (by simp)) hne)
        have hupper : upperChar '_' = ['_'] := by decide
        simp [Close, hupper, hplain]
  | case2 c d rest hs ih =>
      have hrest : AllWord (d :: rest) := fun e he => h e (List.mem_cons_of_mem c he)
      have hc := isPlain_of_not_joined h hs
      rw [joinWords, if_neg hs, List.forall_mem_cons, and_iff_right hc, isChain_close_cons hc,
        ih hrest fun e he => hlast e (by simpa using he)]
  | case3 c => simpa [joinWords] using hlast
  | case4 => simp [joinWords]

/-- What is made from a text has the form of an identifier if the words in it stand one separator
apart. -/
theorem identifierForm_identifierChars_iff (cs : List Char) :
    IdentifierForm (identifierChars cs) ↔ (cleaned cs).IsChain Close := by
  rcases identifierChars_cases cs with ⟨hcs, heq⟩ | ⟨c, d, rest, hcs, hcases⟩
  · rw [hcs, heq]
    refine iff_of_true ?_ .nil
    have hfix : identifierChars "value".toList = "value".toList := by decide +kernel
    exact identifierForm_of_fixed hfix
  · obtain ⟨hc, hlast⟩ := ends_of_cleaned hcs
    have hword : AllWord rest := fun e he =>
      allWord_cleaned cs e (hcs ▸ List.mem_cons_of_mem c he)
    rw [hcs, isChain_close_cons hc, ← isPlain_joinWords_iff hword hlast]
    rcases hcases with ⟨hdigit, heq⟩ | ⟨hsmall, heq⟩
    · rw [heq]
      constructor
      · intro h
        cases h with
        | letter hc _ => exact absurd hc (by decide)
        | digit _ hplain => exact hplain
      · exact .digit hdigit
    · rw [heq]
      constructor
      · intro h
        generalize hjoined : d :: joinWords rest = cs at h
        cases h with
        | letter hc hplain =>
            rw [List.cons.injEq] at hjoined
            rwa [hjoined.2]
        | digit hc hplain =>
            rw [List.cons.injEq] at hjoined
            exact absurd (hjoined.1 ▸ hsmall) (by decide)
      · exact .letter hsmall

/-- What is made from a text is an identifier exactly if the text has no gap. -/
theorem isIdentifier_toIdentifier_iff (s : String) :
    isIdentifier (toIdentifier s) = true ↔ ¬ HasGap s.toList := by
  rw [← isChain_cleaned_iff, ← identifierForm_identifierChars_iff, isIdentifier, beq_iff_eq]
  constructor
  · intro h
    apply identifierForm_of_fixed
    have hchars := congrArg String.toList h
    rwa [toIdentifier, toIdentifier, String.toList_ofList, String.toList_ofList] at hchars
  · intro h
    apply toIdentifier_of_identifierForm
    rwa [toIdentifier, String.toList_ofList]

/-- Not everything that is made from a text is an identifier: a hyphen between blanks leaves an
underscore, which a second conversion takes away. -/
theorem not_isIdentifier_toIdentifier : ¬ ∀ s, isIdentifier (toIdentifier s) = true := by
  intro h
  have hspaced : isIdentifier (toIdentifier "user - name") = false := by decide +kernel
  rw [h] at hspaced
  cases hspaced

end SpecForge.Name
