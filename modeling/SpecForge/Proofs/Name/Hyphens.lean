import SpecForge.Proofs.Name.Respelling

/-!
# Words joined by hyphens

A name in camel case is written with hyphens by putting one before each word, and then taking lower
case. The ends of words are looked for twice, first those of words in small letters and then those
of words in capitals. No place is hidden from the second search by the first one, nor from either by
a place that it has just found. So a hyphen stands exactly where two neighbours tell, with what
follows them, that a word begins. Text that is in lower case and joined by hyphens stays as it is.

Where two capitals stand side by side, it cannot be seen any more which of them were capitals. Where
every capital stands alone, the name comes back when the words are joined again.
-/

namespace SpecForge.Name

open Text

/-! ## Where words begin -/

/-- Does a word begin at the second of two neighbours, given what follows them? A capital begins one
after a lower-case letter or a digit, and the last of several capitals does if it stands before a
lower-case letter. Only ASCII letters and digits count. -/
def beginsWord (c d : Char) (rest : List Char) : Bool :=
  let upper (x : Char) : Bool := 'A' ≤ x && x ≤ 'Z'
  let lower (x : Char) : Bool := 'a' ≤ x && x ≤ 'z'
  upper d && (lower c || isAsciiDigit c || (upper c && (rest.head?.map lower).getD false))

/-- Puts a hyphen before every word but the first. -/
def hyphenate : List Char → List Char
  | c :: d :: rest =>
    if beginsWord c d rest then c :: '-' :: hyphenate (d :: rest) else c :: hyphenate (d :: rest)
  | [c] => [c]
  | [] => []

theorem beginsWord_eq (c d : Char) (rest : List Char) :
    beginsWord c d rest = (endsSmall c d rest || endsCapitals c d rest) := by
  change (isCapital d && (isSmall c || isAsciiDigit c ||
    (isCapital c && (rest.head?.map isSmall).getD false))) = _
  rw [endsSmall, endsCapitals, Bool.and_or_distrib_left, Bool.and_comm, Bool.and_left_comm,
    Bool.and_assoc]

theorem isCapital_eq_false {c : Char} (h : (isSmall c || isAsciiDigit c) = true) :
    isCapital c = false := by
  simp only [isSmall, isAsciiDigit, isCapital, Bool.or_eq_true, Bool.and_eq_true,
    decide_eq_true_eq, Bool.and_eq_false_iff, decide_eq_false_iff_not] at h ⊢
  rcases h with ⟨hlow, _⟩ | ⟨_, hhigh⟩
  · exact .inr fun hz => absurd (Char.le_trans hlow hz) (by decide)
  · exact .inl fun ha => absurd (Char.le_trans ha hhigh) (by decide)

/-- If no two pairs that share a sign pass the test, it does not matter where the search goes on. -/
theorem separate_cons_cons {test : Char → Char → List Char → Bool}
    (hshared : ∀ c d e rest, test c d (e :: rest) = true → test d e rest = false)
    (c d : Char) (rest : List Char) :
    separate test (c :: d :: rest) =
      if test c d rest then c :: '-' :: separate test (d :: rest)
      else c :: separate test (d :: rest) := by
  rw [separate]
  split
  · rename_i htest
    cases rest with
    | nil => rfl
    | cons e rest => rw [separate.eq_1 test d e rest, hshared c d e rest htest, if_neg (by decide)]
  · rfl

theorem endsSmall_shared (c d e : Char) (rest : List Char) (h : endsSmall c d (e :: rest) = true) :
    endsSmall d e rest = false := by
  by_contra hnext
  rw [Bool.not_eq_false, endsSmall, Bool.and_eq_true] at hnext
  rw [endsSmall, isCapital_eq_false hnext.1, Bool.and_false] at h
  cases h

theorem endsCapitals_shared (c d e : Char) (rest : List Char)
    (h : endsCapitals c d (e :: rest) = true) : endsCapitals d e rest = false := by
  rw [endsCapitals, Bool.and_eq_true] at h
  have hsmall : isSmall e = true := h.2
  rw [endsCapitals, isCapital_eq_false (c := e) (by rw [hsmall]; rfl), Bool.and_false,
    Bool.false_and]

/-- The first search keeps the first sign, and what stands behind it if that is a capital. -/
theorem exists_separate_endsSmall_eq_cons (d : Char) (rest : List Char) :
    ∃ behind, separate endsSmall (d :: rest) = d :: behind ∧
      (isCapital d = true → behind.head? = rest.head?) := by
  cases rest with
  | nil => exact ⟨[], rfl, fun _ => rfl⟩
  | cons e rest =>
      obtain ⟨behind, hbehind⟩ : ∃ behind, separate endsSmall (e :: rest) = e :: behind := by
        cases rest with
        | nil => exact ⟨[], rfl⟩
        | cons f rest =>
            rw [separate]
            split <;> exact ⟨_, rfl⟩
      rw [separate_cons_cons endsSmall_shared, hbehind]
      split
      · rename_i htest
        refine ⟨_, rfl, fun hcapital => ?_⟩
        rw [endsSmall, Bool.and_eq_true] at htest
        rw [isCapital_eq_false htest.1] at hcapital
        cases hcapital
      · exact ⟨_, rfl, fun _ => rfl⟩

/-- The two searches together find the places where words begin. -/
theorem separate_endsCapitals_endsSmall (cs : List Char) :
    separate endsCapitals (separate endsSmall cs) = hyphenate cs := by
  induction cs with
  | nil => rfl
  | cons c cs ih =>
      cases cs with
      | nil => rfl
      | cons d rest =>
          obtain ⟨behind, hbehind, hhead⟩ := exists_separate_endsSmall_eq_cons d rest
          rw [hbehind] at ih
          rw [hyphenate, beginsWord_eq, separate_cons_cons endsSmall_shared, hbehind]
          cases endsSmall c d rest with
          | true =>
              -- no capital stands beside the hyphen that was put in
              have hbefore : endsCapitals c '-' (d :: behind) = false := by
                rw [endsCapitals, Bool.and_assoc]
                exact Bool.and_false _
              have hafter : endsCapitals '-' d behind = false := rfl
              rw [Bool.true_or, if_pos rfl, if_pos rfl, separate_cons_cons endsCapitals_shared,
                hbefore, separate_cons_cons endsCapitals_shared, hafter, ← ih]
              rfl
          | false =>
              have hsame : endsCapitals c d behind = endsCapitals c d rest := by
                rw [endsCapitals, endsCapitals]
                cases hd : isCapital d with
                | true => rw [hhead hd]
                | false => rw [Bool.and_false, Bool.false_and, Bool.false_and]
              rw [Bool.false_or, if_neg (by decide), separate_cons_cons endsCapitals_shared, hsame,
                ih]

theorem toKebab_eq (s : String) : toKebab s = lower (String.ofList (hyphenate s.toList)) := by
  rw [toKebab, separate_endsCapitals_endsSmall]

/-! ## Lower case -/

theorem toLower_ascii {c : Char} (h : c.toNat < 128) :
    c.toLower.toNat < 128 ∧ isCapital c.toLower = false ∧ c.toLower.toLower = c.toLower ∧
      (c.toLower != '-') = (c != '-') := by
  refine forall_ascii (P := fun c => c.toLower.toNat < 128 ∧ isCapital c.toLower = false ∧
    c.toLower.toLower = c.toLower ∧ (c.toLower != '-') = (c != '-')) ?_ h
  decide

theorem lowerFrom_cons (before : List Char) {c : Char} (hc : c.toNat < 128) (cs : List Char) :
    lowerFrom before (c :: cs) = c.toLower :: lowerFrom (c :: before) cs := by
  have hsigma : c ≠ 'Σ' := by
    rintro rfl
    exact absurd hc (by decide)
  rw [lowerFrom, if_neg hsigma, lowerChar, if_pos hc, List.singleton_append]

theorem lowerFrom_ascii (before : List Char) {cs : List Char} (h : ∀ c ∈ cs, c.toNat < 128) :
    lowerFrom before cs = cs.map Char.toLower := by
  induction cs generalizing before with
  | nil => rfl
  | cons c cs ih =>
      rw [List.forall_mem_cons] at h
      rw [lowerFrom_cons before h.1, ih _ h.2, List.map_cons]

theorem toList_lower {s : String} (h : ∀ c ∈ s.toList, c.toNat < 128) :
    (lower s).toList = s.toList.map Char.toLower := by
  rw [lower, String.toList_ofList, lowerFrom_ascii [] h]

/-- Nothing but hyphens is put in. -/
theorem filter_hyphenate (cs : List Char) :
    (hyphenate cs).filter (· != '-') = cs.filter (· != '-') := by
  induction cs using hyphenate.induct with
  | case1 c d rest hbegins ih =>
      rw [hyphenate, if_pos hbegins, List.filter_cons, List.filter_cons_of_neg (by decide), ih]
      conv_rhs => rw [List.filter_cons]
  | case2 c d rest hbegins ih =>
      rw [hyphenate, if_neg hbegins, List.filter_cons, ih]
      conv_rhs => rw [List.filter_cons]
  | case3 c => rfl
  | case4 => rfl

theorem ascii_hyphenate {cs : List Char} (h : ∀ c ∈ cs, c.toNat < 128) :
    ∀ c ∈ hyphenate cs, c.toNat < 128 := by
  intro c hc
  by_cases hhyphen : c = '-'
  · rw [hhyphen]
    decide
  · have hmem : c ∈ (hyphenate cs).filter (· != '-') :=
      List.mem_filter.2 ⟨hc, bne_iff_ne.2 hhyphen⟩
    rw [filter_hyphenate] at hmem
    exact h c (List.mem_filter.1 hmem).1

/-- No word begins where there are no capitals. -/
theorem hyphenate_eq_self {cs : List Char} (h : ∀ c ∈ cs, isCapital c = false) :
    hyphenate cs = cs := by
  induction cs using hyphenate.induct with
  | case1 c d rest hbegins ih =>
      have hcapital : isCapital d = true := (Bool.and_eq_true _ _ ▸ hbegins).1
      rw [h d (by simp)] at hcapital
      cases hcapital
  | case2 c d rest hbegins ih =>
      rw [hyphenate, if_neg hbegins, ih fun e he => h e (List.mem_cons_of_mem c he)]
  | case3 c => rfl
  | case4 => rfl

theorem toList_toKebab {s : String} (h : ∀ c ∈ s.toList, c.toNat < 128) :
    (toKebab s).toList = (hyphenate s.toList).map Char.toLower := by
  have hascii := ascii_hyphenate h
  rw [← String.toList_ofList (l := hyphenate s.toList)] at hascii
  rw [toKebab_eq, toList_lower hascii, String.toList_ofList]

/-- Words in lower case joined by hyphens stay as they are. -/
theorem toKebab_toKebab {s : String} (h : ∀ c ∈ s.toList, c.toNat < 128) :
    toKebab (toKebab s) = toKebab s := by
  have hlow : ∀ c ∈ (toKebab s).toList,
      c.toNat < 128 ∧ isCapital c = false ∧ c.toLower = c := by
    rw [toList_toKebab h, List.forall_mem_map]
    intro c hc
    obtain ⟨hascii, hcapital, htwice, _⟩ := toLower_ascii (ascii_hyphenate h c hc)
    exact ⟨hascii, hcapital, htwice⟩
  rw [← String.toList_inj, toList_toKebab fun c hc => (hlow c hc).1,
    hyphenate_eq_self fun c hc => (hlow c hc).2.1]
  exact (List.map_congr_left fun c hc => (hlow c hc).2.2).trans (List.map_id _)

/-- Without its hyphens, the text is that in lower case without its hyphens. -/
theorem filter_toKebab {s : String} (h : ∀ c ∈ s.toList, c.toNat < 128) :
    (toKebab s).toList.filter (· != '-') = (lower s).toList.filter (· != '-') := by
  have hkept : ∀ cs : List Char, (∀ c ∈ cs, c.toNat < 128) →
      (cs.map Char.toLower).filter (· != '-') = (cs.filter (· != '-')).map Char.toLower := by
    intro cs hcs
    rw [List.filter_map]
    exact congrArg _ (List.filter_congr fun c hc => (toLower_ascii (hcs c hc)).2.2.2)
  rw [toList_toKebab h, toList_lower h, hkept _ (ascii_hyphenate h), filter_hyphenate, hkept _ h]

/-- A text is written in lower case, with hyphens exactly where words begin. ASCII text that has
been written so stays as it is, and nothing but hyphens has been put in. -/
theorem toKebab_words (s : String) :
    toKebab s = lower (String.ofList (hyphenate s.toList)) ∧
      ((∀ c ∈ s.toList, c.toNat < 128) →
        toKebab (toKebab s) = toKebab s ∧
          (toKebab s).toList.filter (· != '-') = (lower s).toList.filter (· != '-')) :=
  ⟨toKebab_eq s, fun h => ⟨toKebab_toKebab h, filter_toKebab h⟩⟩

theorem toKebab_words_serverName :
    toKebab "HTTPServer2Go-Re_tryA" = "http-server2-go-re_try-a" ∧
      toKebab "http-server2-go-re_try-a" = "http-server2-go-re_try-a" ∧
      "http-server2-go-re_try-a".toList.filter (· != '-') =
        (lower "HTTPServer2Go-Re_tryA").toList.filter (· != '-') := by
  obtain ⟨hwords, hascii⟩ := toKebab_words "HTTPServer2Go-Re_tryA"
  have hname : toKebab "HTTPServer2Go-Re_tryA" = "http-server2-go-re_try-a" :=
    hwords.trans (by decide +kernel)
  have hsmall : ("HTTPServer2Go-Re_tryA".toList.all fun c => decide (c.toNat < 128)) = true := by
    decide +kernel
  obtain ⟨hsame, hkept⟩ := hascii fun c hc => of_decide_eq_true (List.all_eq_true.1 hsmall c hc)
  rw [hname] at hsame hkept
  exact ⟨hname, hsame, hkept⟩

/-! ## Reading back -/

/-- No two capitals stand side by side. -/
def CapitalsAlone (cs : List Char) : Prop :=
  cs.IsChain fun c d => ¬ (isCapital c = true ∧ isCapital d = true)

instance (cs : List Char) : Decidable (CapitalsAlone cs) :=
  inferInstanceAs (Decidable (List.IsChain _ cs))

/-- A capital comes back from lower case, all other letters and digits are in lower case. -/
theorem lower_cases {c : Char} (h : isPlain c = true) :
    if isCapital c then upperChar c.toLower = [c]
    else c.toLower = c ∧ ('a' ≤ c && c ≤ 'z' || isAsciiDigit c) = true := by
  refine forall_isWordChar (P := fun c => isPlain c = true → if isCapital c then
    upperChar c.toLower = [c] else c.toLower = c ∧
      ('a' ≤ c && c ≤ 'z' || isAsciiDigit c) = true) ?_ (isWordChar_of_isPlain h) h
  decide

/-- A word begins at each capital that stands alone, and nowhere else. -/
theorem beginsWord_of_alone {c d : Char} (hc : isPlain c = true)
    (h : ¬ (isCapital c = true ∧ isCapital d = true)) (rest : List Char) :
    beginsWord c d rest = isCapital d := by
  have hbegins : beginsWord c d rest = (isCapital d && ('a' ≤ c && c ≤ 'z' || isAsciiDigit c ||
    (isCapital c && (rest.head?.map fun x => decide ('a' ≤ x) && x ≤ 'z').getD false))) := rfl
  rw [hbegins]
  cases hd : isCapital d with
  | false => rw [Bool.false_and]
  | true =>
      have hcapital : ¬ isCapital c = true := fun hcap => h ⟨hcap, hd⟩
      have hlower := lower_cases hc
      rw [if_neg hcapital] at hlower
      rw [hlower.2, Bool.true_or, Bool.true_and]

theorem exists_hyphenate_eq_cons (c : Char) (cs : List Char) :
    ∃ rest, hyphenate (c :: cs) = c :: rest := by
  cases cs with
  | nil => exact ⟨[], rfl⟩
  | cons d cs =>
      rw [hyphenate]
      split <;> exact ⟨_, rfl⟩

/-- In lower case and with hyphens, everything behind the first letter can be read back. -/
theorem joinWords_lowerFrom_hyphenate (before : List Char) {c : Char} {cs : List Char}
    (hplain : ∀ d ∈ c :: cs, isPlain d = true) (halone : CapitalsAlone (c :: cs)) :
    joinWords (lowerFrom before (hyphenate (c :: cs))) = c.toLower :: cs := by
  have hc : isPlain c = true := hplain c List.mem_cons_self
  have hascii : c.toNat < 128 := toNat_lt_of_isWordChar (isWordChar_of_isPlain hc)
  have hlow : isPlain c.toLower = true := (isPlain_changed hc).2.1
  induction cs generalizing before c with
  | nil =>
      rw [hyphenate, lowerFrom_cons before hascii, joinWords_cons hlow]
      rfl
  | cons d cs ih =>
      have hrest : ∀ e ∈ d :: cs, isPlain e = true :=
        fun e he => hplain e (List.mem_cons_of_mem c he)
      have hd : isPlain d = true := hrest d List.mem_cons_self
      have hdascii : d.toNat < 128 := toNat_lt_of_isWordChar (isWordChar_of_isPlain hd)
      have hdlow : isPlain d.toLower = true := (isPlain_changed hd).2.1
      obtain ⟨hpair, halone⟩ := List.isChain_cons_cons.1 halone
      have hbehind : ∀ before, joinWords (lowerFrom before (hyphenate (d :: cs))) =
          d.toLower :: cs := fun before => ih before hrest halone hd hdascii hdlow
      have hcase := lower_cases hd
      rw [hyphenate, beginsWord_of_alone hc hpair]
      cases hcapital : isCapital d with
      | false =>
          rw [hcapital, if_neg (by decide)] at hcase
          rw [if_neg (by decide), lowerFrom_cons before hascii, joinWords_cons hlow, hbehind,
            hcase.1]
      | true =>
          rw [hcapital, if_pos rfl] at hcase
          obtain ⟨rest, hhyphens⟩ := exists_hyphenate_eq_cons d cs
          have hafter := hbehind ('-' :: c :: before)
          rw [hhyphens, lowerFrom_cons _ hdascii, joinWords_cons hdlow, List.cons.injEq] at hafter
          rw [if_pos rfl, lowerFrom_cons before hascii, lowerFrom_cons _ (by decide),
            joinWords_cons hlow, hhyphens, lowerFrom_cons _ hdascii,
            joinWords_separator (by decide) (isWordChar_of_isPlain hdlow), hafter.2, hcase]
          rfl

/-- A name comes back from the words that it is written as, if each of its capitals stands alone.
-/
theorem toCamel_toKebab {s : String} (h : IsCamel s.toList) (halone : CapitalsAlone s.toList) :
    toCamel (toKebab s) = s := by
  obtain ⟨hplain, c, hhead, hsmall⟩ := h
  obtain ⟨rest, hs⟩ : ∃ rest, s.toList = c :: rest := List.head?_eq_some_iff.1 hhead
  have hc : isPlain c = true := hplain c (List.mem_of_mem_head? hhead)
  rw [hs] at hplain halone
  have hcapital : isCapital c = false := by
    refine forall_isWordChar (P := fun c => 'a' ≤ c ∧ c ≤ 'z' → isCapital c = false) ?_
      (isWordChar_of_isPlain hc) hsmall
    decide
  have hcase := lower_cases hc
  rw [hcapital, if_neg (by decide)] at hcase
  rw [toCamel, toKebab_eq, lower, String.toList_ofList, String.toList_ofList, hs, camelChars,
    joinWords_lowerFrom_hyphenate [] hplain halone, hcase.1, decapitalizeChars,
    (small_letter hc hsmall).1, List.singleton_append, ← hs, String.ofList_toList]

end SpecForge.Name
