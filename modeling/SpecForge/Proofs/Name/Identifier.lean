import SpecForge.Proofs.Name.Respelling

/-!
# Texts that are identifiers

A text is an identifier if making an identifier from it does not change it. It is known exactly
which texts these are: a small letter comes first, or an underscore and a digit, and behind that
there are only letters and digits. In all other texts something is lost. A separator that is not cut
off goes when words are joined, which makes the text shorter, and nothing that follows makes up for
that except behind an underscore at the beginning.
-/

namespace SpecForge.Name

open Text

/-- The texts that are identifiers: letters and digits behind a small letter, or behind an
underscore and a digit. -/
inductive IdentifierForm : List Char → Prop
  | letter {c : Char} {cs : List Char} (hc : 'a' ≤ c ∧ c ≤ 'z')
      (hcs : ∀ d ∈ cs, isPlain d = true) : IdentifierForm (c :: cs)
  | digit {c : Char} {cs : List Char} (hc : isAsciiDigit c = true)
      (hcs : ∀ d ∈ cs, isPlain d = true) : IdentifierForm ('_' :: c :: cs)

/-! ### The first character -/

/-- Among letters and digits only the ASCII digits count as digits. -/
theorem isDigitLike_of_isWordChar {c : Char} (h : isWordChar c = true) :
    isDigitLike c = isAsciiDigit c := by
  refine forall_isWordChar (P := fun c => isDigitLike c = isAsciiDigit c) ?_ h
  decide +kernel

/-- A letter or digit in lower case is a digit or a small letter. -/
theorem digit_or_small {c : Char} (hc : isPlain c = true) (hlower : lowerChar c = [c]) :
    isAsciiDigit c = true ∨ ('a' ≤ c ∧ c ≤ 'z') := by
  refine forall_isWordChar (P := fun c => isPlain c = true → lowerChar c = [c] →
    isAsciiDigit c = true ∨ ('a' ≤ c ∧ c ≤ 'z')) ?_ (isWordChar_of_isPlain hc) hc hlower
  decide +kernel

theorem isPlain_of_isAsciiDigit {c : Char} (h : isAsciiDigit c = true) : isPlain c = true := by
  rw [isPlain, h, Bool.or_true]

theorem isPlain_of_small {c : Char} (h : 'a' ≤ c ∧ c ≤ 'z') : isPlain c = true := by
  simp [isPlain, isAsciiLetter, h.1, h.2]

theorem not_isAsciiDigit {c : Char} (h : 'a' ≤ c ∧ c ≤ 'z') : isAsciiDigit c = false := by
  have hc := isPlain_of_small h
  rw [← isDigitLike_of_isWordChar (isWordChar_of_isPlain hc)]
  exact (small_letter hc h).2

theorem lowerChar_digit {c : Char} (h : isAsciiDigit c = true) : lowerChar c = [c] := by
  refine forall_isWordChar (P := fun c => isAsciiDigit c = true → lowerChar c = [c]) ?_
    (isWordChar_of_isPlain (isPlain_of_isAsciiDigit h)) h
  decide

/-! ### Words that stay as they are when they are joined -/

theorem length_upperChar {c : Char} (hc : isWordChar c = true) : (upperChar c).length = 1 := by
  rw [upperChar, if_pos (toNat_lt_of_isWordChar hc)]
  rfl

/-- Joining words makes nothing longer. -/
theorem length_joinWords_le {cs : List Char} (h : AllWord cs) :
    (joinWords cs).length ≤ cs.length := by
  induction cs using joinWords.induct with
  | case1 c d rest hs ih =>
      have hrest := ih fun e he => h e (by simp [he])
      rw [joinWords, if_pos hs, List.length_append, length_upperChar (h d (by simp))]
      simp only [List.length_cons]
      omega
  | case2 c d rest hs ih =>
      rw [joinWords, if_neg hs, List.length_cons, List.length_cons]
      exact Nat.succ_le_succ (ih fun e he => h e (List.mem_cons_of_mem c he))
  | case3 c => exact Nat.le_refl _
  | case4 => exact Nat.le_refl _

/-- Where joining words makes nothing shorter either, there is no separator but the last character.
-/
theorem isPlain_of_length_joinWords {cs : List Char} (h : AllWord cs)
    (hlast : ∀ c ∈ cs.getLast?, isPlain c = true) (hlen : cs.length ≤ (joinWords cs).length) :
    ∀ c ∈ cs, isPlain c = true := by
  induction cs using joinWords.induct with
  | case1 c d rest hs ih =>
      have hrest := length_joinWords_le fun e (he : e ∈ rest) => h e (by simp [he])
      rw [joinWords, if_pos hs, List.length_append, length_upperChar (h d (by simp))] at hlen
      simp only [List.length_cons] at hlen
      omega
  | case2 c d rest hs ih =>
      rw [joinWords, if_neg hs, List.length_cons, List.length_cons] at hlen
      have hrest : AllWord (d :: rest) := fun e he => h e (List.mem_cons_of_mem c he)
      exact List.forall_mem_cons.2 ⟨isPlain_of_not_joined h hs,
        ih hrest (fun e he => hlast e (by simpa using he)) (Nat.le_of_succ_le_succ hlen)⟩
  | case3 c => simpa using hlast
  | case4 => exact fun c hc => absurd hc List.not_mem_nil

/-- What is left of some words when underscores at the end are cut off and the rest is joined can be
all of them only if they are one word. -/
theorem isPlain_of_joinWords_rdropWhile {cs : List Char} (h : AllWord cs)
    (hfix : joinWords (cs.rdropWhile (· == '_')) = cs) : ∀ c ∈ cs, isPlain c = true := by
  have hcut := List.rdropWhile_prefix (· == '_') cs
  have hword : AllWord (cs.rdropWhile (· == '_')) := fun c hc => h c (hcut.subset hc)
  have hlen := length_joinWords_le hword
  rw [hfix] at hlen
  have hsame : cs.rdropWhile (· == '_') = cs :=
    hcut.eq_of_length (Nat.le_antisymm hcut.length_le hlen)
  rw [hsame] at hfix
  refine isPlain_of_length_joinWords h (fun c hc => ?_) (by rw [hfix])
  have hne : cs ≠ [] := List.ne_nil_of_mem (List.mem_of_getLast? hc)
  have hmark := List.rdropWhile_eq_self_iff.1 hsame hne
  rw [List.getLast_of_mem_getLast? hc] at hmark
  exact isPlain_of_isWordChar (h c (List.mem_of_getLast? hc)) (by simpa using hmark)

/-! ### The characters of identifiers -/

/-- How an identifier is made up: of the word `value`, or of joined words behind a small letter or
behind a digit that has an underscore in front. -/
theorem identifierChars_cases (cs : List Char) :
    (cleaned cs = [] ∧ identifierChars cs = "value".toList) ∨
      ∃ c d rest, cleaned cs = c :: rest ∧
        ((isAsciiDigit d = true ∧ identifierChars cs = '_' :: d :: joinWords rest) ∨
          (('a' ≤ d ∧ d ≤ 'z') ∧ identifierChars cs = d :: joinWords rest)) := by
  cases hcs : cleaned cs with
  | nil =>
      left
      rw [identifierChars, hcs]
      exact ⟨rfl, by decide +kernel⟩
  | cons c rest =>
      right
      have hc := (ends_of_cleaned hcs).1
      obtain ⟨d, hd, hlower, htwice⟩ := exists_lowerChar hc
      have hchars : identifierChars cs =
          if isAsciiDigit d then '_' :: d :: joinWords rest else d :: joinWords rest := by
        rw [identifierChars, hcs, List.isEmpty_cons, if_neg (by decide), camelChars,
          joinWords_cons hc, decapitalizeChars, hlower,
          ← isDigitLike_of_isWordChar (isWordChar_of_isPlain hd)]
        rfl
      refine ⟨c, d, rest, rfl, ?_⟩
      rcases digit_or_small hd htwice with hdigit | hsmall
      · rw [hchars, if_pos hdigit]
        exact .inl ⟨hdigit, rfl⟩
      · rw [hchars, not_isAsciiDigit hsmall]
        exact .inr ⟨hsmall, rfl⟩

/-- Letters, digits and underscores behind a small letter or an underscore. -/
def IsFieldName (cs : List Char) : Prop :=
  ∃ c rest, cs = c :: rest ∧ (('a' ≤ c ∧ c ≤ 'z') ∨ c = '_') ∧ AllWord rest

theorem isFieldName_identifierChars (cs : List Char) : IsFieldName (identifierChars cs) := by
  have hword := allWord_identifierChars cs
  rcases identifierChars_cases cs with ⟨_, heq⟩ | ⟨c, d, rest, _, ⟨_, heq⟩ | ⟨hsmall, heq⟩⟩
  · rw [heq]
    exact ⟨'v', "alue".toList, by decide, by decide, by decide⟩
  · rw [heq] at hword ⊢
    exact ⟨'_', _, rfl, .inr rfl, fun e he => hword e (List.mem_cons_of_mem _ he)⟩
  · rw [heq] at hword ⊢
    exact ⟨d, _, rfl, .inl hsmall, fun e he => hword e (List.mem_cons_of_mem _ he)⟩

theorem isFieldName_toIdentifier (s : String) : IsFieldName (toIdentifier s).toList := by
  rw [toIdentifier, String.toList_ofList]
  exact isFieldName_identifierChars s.toList

/-! ### Identifiers that are made from themselves -/

theorem cleaned_of_allWord {c : Char} (hc : isPlain c = true) {cs : List Char} (h : AllWord cs) :
    cleaned (c :: cs) = c :: cs.rdropWhile (· == '_') := by
  have hsame : underscored cs = cs :=
    (List.map_congr_left fun d hd => if_pos (h d hd)).trans (List.map_id cs)
  rw [cleaned_cons hc, hsame]

theorem cleaned_underscore (cs : List Char) : cleaned ('_' :: cs) = cleaned cs := by
  rw [cleaned_eq, cleaned_eq]
  exact trim_append_left (List.forall_mem_singleton.2 rfl) (underscored cs)

/-- An identifier that is made from itself has no separators behind its first letter or digit. -/
theorem identifierForm_of_fixed {cs : List Char} (hfix : identifierChars cs = cs) :
    IdentifierForm cs := by
  have hword := allWord_identifierChars cs
  rcases identifierChars_cases cs with
    ⟨_, heq⟩ | ⟨c, d, rest, hcs, ⟨hdigit, heq⟩ | ⟨hsmall, heq⟩⟩
  · have hvalue : "value".toList = ['v', 'a', 'l', 'u', 'e'] := by decide
    have hplain : ['a', 'l', 'u', 'e'].all isPlain = true := by decide
    rw [← hfix, heq, hvalue]
    exact .letter (by decide) (List.all_eq_true.1 hplain)
  · rw [hfix] at hword heq
    subst heq
    have htail : AllWord (joinWords rest) := fun e he =>
      hword e (List.mem_cons_of_mem _ (List.mem_cons_of_mem _ he))
    rw [cleaned_underscore, cleaned_of_allWord (isPlain_of_isAsciiDigit hdigit) htail,
      List.cons.injEq] at hcs
    exact .digit hdigit (isPlain_of_joinWords_rdropWhile htail (congrArg joinWords hcs.2))
  · rw [hfix] at hword heq
    subst heq
    have htail : AllWord (joinWords rest) := fun e he => hword e (List.mem_cons_of_mem _ he)
    rw [cleaned_of_allWord (isPlain_of_small hsmall) htail, List.cons.injEq] at hcs
    exact .letter hsmall (isPlain_of_joinWords_rdropWhile htail (congrArg joinWords hcs.2))

theorem toIdentifier_of_identifierForm {s : String} (h : IdentifierForm s.toList) :
    toIdentifier s = s := by
  generalize hcs : s.toList = cs at h
  cases h with
  | @letter c cs hc hplain =>
      refine toIdentifier_of_isCamel ?_
      rw [hcs]
      exact ⟨List.forall_mem_cons.2 ⟨isPlain_of_small hc, hplain⟩, c, rfl, hc⟩
  | @digit c cs hc hplain =>
      have hfirst := isPlain_of_isAsciiDigit hc
      have hdigit := isDigitLike_of_isWordChar (isWordChar_of_isPlain hfirst)
      have hall : ∀ d ∈ c :: cs, isPlain d = true := List.forall_mem_cons.2 ⟨hfirst, hplain⟩
      rw [toIdentifier, hcs, identifierChars, cleaned_underscore, cleaned_of_isPlain hall,
        List.isEmpty_cons, if_neg (by decide), camelChars, joinWords_of_isPlain hall,
        decapitalizeChars, lowerChar_digit hc, ← String.toList_inj, String.toList_ofList, hcs]
      simp [hdigit, hc]

/-- The texts that are identifiers. -/
theorem isIdentifier_iff (s : String) : isIdentifier s = true ↔ IdentifierForm s.toList := by
  rw [isIdentifier, beq_iff_eq]
  constructor
  · intro h
    apply identifierForm_of_fixed
    have hchars := congrArg String.toList h
    rwa [toIdentifier, String.toList_ofList] at hchars
  · exact toIdentifier_of_identifierForm

/-- The underscore counts only in front of a digit, and it counts once. -/
example : isIdentifier "_2fa" = true ∧ isIdentifier "_fa" = false ∧
    isIdentifier "_2_fa" = false := by
  decide +kernel

end SpecForge.Name
