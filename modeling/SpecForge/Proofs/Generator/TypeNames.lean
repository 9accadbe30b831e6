import SpecForge.Proofs.Generator.FileName
import SpecForge.Proofs.Name.Identifier
import SpecForge.Proofs.Text.LetterCase

/-!
# Names of types

Clients and themes are named for a title and for a project: the ASCII letters and digits are kept,
and everything else is dropped. No type can have a name that begins with a digit, but nothing is put
in front of one. So the name is that of a type unless a digit is the first thing that is kept, that
is, unless nothing is kept of what stands in front of the first digit.
-/

namespace SpecForge

open Text

/-! ### Digits and letter case -/

/-- The range of the ASCII digits. -/
def Text.asciiDigits : Ranges := [(0x30, 0x39)]

theorem Text.covers_asciiDigits (c : Char) : asciiDigits.covers c = isAsciiDigit c := by
  rw [Bool.eq_iff_iff, Ranges.covers_iff, isAsciiDigit, Bool.and_eq_true, decide_eq_true_iff,
    decide_eq_true_iff]
  simp only [asciiDigits, List.mem_singleton, exists_eq_left]
  rfl

namespace Name

/-- No ASCII digits. -/
def Digitless (cs : List Char) : Prop := ∀ c ∈ cs, isAsciiDigit c = false

theorem digitless_append {cs ds : List Char} :
    Digitless (cs ++ ds) ↔ Digitless cs ∧ Digitless ds := List.forall_mem_append

theorem digitless_cons {c : Char} {cs : List Char} :
    Digitless (c :: cs) ↔ isAsciiDigit c = false ∧ Digitless cs := List.forall_mem_cons

theorem digitless_nil : Digitless [] := List.forall_mem_nil _

/-- What is not a digit does not become one in the other case, whichever the other case is. -/
theorem digitless_changed {change : Char → Char} {runs : List Case.Run}
    {expansions : List (Nat × List Nat)}
    (hascii : ∀ n < 128, isAsciiDigit (change (Char.ofNat n)) = true →
      isAsciiDigit (Char.ofNat n) = true)
    (hruns : ∀ r ∈ runs, r.Misses asciiDigits)
    (hexpansions : ∀ e ∈ expansions, ∀ n ∈ e.2, isAsciiDigit (Char.ofNat n) = false)
    {c : Char} (hc : isAsciiDigit c = false) :
    Digitless (if c.toNat < 128 then [change c] else Case.image runs expansions c) := by
  intro d hd
  rw [← Bool.not_eq_true] at hc ⊢
  refine fun hdigit => hc ?_
  split at hd
  · rename_i hlow
    have hself := hascii c.toNat hlow
    rw [Char.ofNat_toNat, ← List.mem_singleton.1 hd] at hself
    exact hself hdigit
  · rename_i hhigh
    have hcovers := (covers_asciiDigits d).trans hdigit
    rcases Case.eq_or_expanded (by decide) hruns (Nat.not_lt.1 hhigh) hcovers hd with
      rfl | ⟨e, he, himage⟩
    · exact hdigit
    · rw [himage] at hd
      obtain ⟨n, hn, rfl⟩ := List.mem_map.1 hd
      rw [hexpansions e he n hn] at hdigit
      cases hdigit

theorem digitless_upperChar {c : Char} (hc : isAsciiDigit c = false) :
    Digitless (upperChar c) :=
  digitless_changed (by decide) (by decide +kernel) (by decide) hc

theorem digitless_lowerChar {c : Char} (hc : isAsciiDigit c = false) :
    Digitless (lowerChar c) :=
  digitless_changed (by decide) (by decide +kernel) (by decide) hc

theorem upperChar_digit {c : Char} (h : isAsciiDigit c = true) : upperChar c = [c] := by
  refine forall_isWordChar (P := fun c => isAsciiDigit c = true → upperChar c = [c]) ?_
    (isWordChar_of_isPlain (isPlain_of_isAsciiDigit h)) h
  decide

/-! ### Capitals and joined words around a digit -/

theorem Digitless.joinWords {cs : List Char} (h : Digitless cs) : Digitless (joinWords cs) := by
  induction cs using Name.joinWords.induct with
  | case1 c d rest hs ih =>
      obtain ⟨_, h⟩ := digitless_cons.1 h
      obtain ⟨hd, hrest⟩ := digitless_cons.1 h
      rw [Name.joinWords, if_pos hs]
      exact digitless_append.2 ⟨digitless_upperChar hd, ih hrest⟩
  | case2 c d rest hs ih =>
      obtain ⟨hc, hrest⟩ := digitless_cons.1 h
      rw [Name.joinWords, if_neg hs]
      exact digitless_cons.2 ⟨hc, ih hrest⟩
  | case3 c => exact h
  | case4 => exact h

/-- The characters of a name with a capital, whose words are joined. -/
def pascalChars (cs : List Char) : List Char := capitalizeChars (camelChars cs)

theorem toList_toPascal (s : String) : (toPascal s).toList = pascalChars s.toList := by
  rw [toPascal, capitalize, toCamel, String.toList_ofList, String.toList_ofList, pascalChars]

theorem Digitless.pascalChars {cs : List Char} (h : Digitless cs) :
    Digitless (pascalChars cs) := by
  have hjoined := h.joinWords
  rw [Name.pascalChars, camelChars]
  cases hcs : Name.joinWords cs with
  | nil => exact digitless_nil
  | cons c rest =>
      rw [hcs, digitless_cons] at hjoined
      obtain ⟨d, ds, hd⟩ := List.exists_cons_of_ne_nil (lowerChar_ne_nil c)
      have hlower := digitless_lowerChar hjoined.1
      rw [hd, digitless_cons] at hlower
      rw [decapitalizeChars, hd, List.cons_append, capitalizeChars, digitless_append,
        digitless_append]
      exact ⟨digitless_upperChar hlower.1, hlower.2, hjoined.2⟩

/-- Only the first character is put into another case. -/
theorem capitalize_decapitalize_append {cs : List Char} (hcs : cs ≠ []) (ds : List Char) :
    capitalizeChars (decapitalizeChars (cs ++ ds)) =
      capitalizeChars (decapitalizeChars cs) ++ ds := by
  obtain ⟨c, rest, rfl⟩ := List.exists_cons_of_ne_nil hcs
  obtain ⟨e, es, he⟩ := List.exists_cons_of_ne_nil (lowerChar_ne_nil c)
  simp only [List.cons_append, decapitalizeChars, he, capitalizeChars, List.append_assoc]

/-- In front of a digit words are joined as if it were not there, except that a separator right in
front of it is dropped. -/
theorem exists_joinWords_concat (u : List Char) {d : Char} (hd : isAsciiDigit d = true) :
    ∃ j, joinWords (u ++ [d]) = j ++ [d] ∧
      (joinWords u = j ∨ ∃ c, isSeparator c = true ∧ joinWords u = j ++ [c]) := by
  induction u using joinWords.induct with
  | case1 c e rest hs ih =>
      obtain ⟨j, hj, hu⟩ := ih
      simp only [List.cons_append, joinWords, if_pos hs, hj]
      refine ⟨upperChar e ++ j, (List.append_assoc _ _ _).symm, hu.imp (fun h => ?_) ?_⟩
      · rw [h]
      · rintro ⟨x, hx, h⟩
        exact ⟨x, hx, by rw [h, List.append_assoc]⟩
  | case2 c e rest hs ih =>
      obtain ⟨j, hj, hu⟩ := ih
      rw [List.cons_append] at hj
      simp only [List.cons_append, joinWords, if_neg hs, hj]
      refine ⟨c :: j, rfl, hu.imp (fun h => ?_) ?_⟩
      · rw [h]
      · rintro ⟨x, hx, h⟩
        exact ⟨x, hx, by rw [h, List.cons_append]⟩
  | case3 c =>
      by_cases hs : (isSeparator c && d != '\n') = true
      · refine ⟨[], ?_, .inr ⟨c, (Bool.and_eq_true_iff.1 hs).1, rfl⟩⟩
        rw [List.singleton_append, joinWords, if_pos hs, upperChar_digit hd]
        rfl
      · refine ⟨[c], ?_, .inl rfl⟩
        rw [List.singleton_append, joinWords, if_neg hs]
        rfl
  | case4 => exact ⟨[], rfl, .inl rfl⟩

/-- A separator at the end is not kept. -/
theorem kept_concat_separator (cs : List Char) {c : Char} (hc : isSeparator c = true) :
    (capitalizeChars (decapitalizeChars (cs ++ [c]))).filter isPlain =
      (capitalizeChars (decapitalizeChars cs)).filter isPlain := by
  have hplain : isPlain c = false := by
    rw [← Bool.not_eq_true]
    intro h
    rw [isSeparator_of_isPlain h] at hc
    cases hc
  cases cs with
  | nil =>
      rw [isSeparator, Bool.or_eq_true, beq_iff_eq, beq_iff_eq] at hc
      rcases hc with rfl | rfl
      · decide
      · decide
  | cons e rest =>
      rw [capitalize_decapitalize_append (List.cons_ne_nil e rest), List.filter_append,
        List.filter_cons_of_neg (by rw [hplain]; decide), List.filter_nil, List.append_nil]

/-- What is kept in front of a digit does not depend on what follows. -/
theorem kept_append_digit (u : List Char) {d : Char} (hd : isAsciiDigit d = true)
    (v : List Char) : ∃ rest,
      (pascalChars (u ++ d :: v)).filter isPlain = (pascalChars u).filter isPlain ++ d :: rest := by
  obtain ⟨j, hj, hu⟩ := exists_joinWords_concat u hd
  refine ⟨(joinWords v).filter isPlain, ?_⟩
  have hplain := isPlain_of_isAsciiDigit hd
  have hfront : (pascalChars u).filter isPlain =
      (capitalizeChars (decapitalizeChars j)).filter isPlain := by
    rw [pascalChars, camelChars]
    rcases hu with hu | ⟨c, hc, hu⟩
    · rw [hu]
    · rw [hu, kept_concat_separator j hc]
  have hwhole : pascalChars (u ++ d :: v) =
      capitalizeChars (decapitalizeChars j) ++ d :: joinWords v := by
    rw [pascalChars, camelChars, joinWords_append_cons u hplain, hj, List.append_assoc,
      List.singleton_append]
    cases j with
    | nil =>
        simp only [List.nil_append, decapitalizeChars, lowerChar_digit hd, List.singleton_append,
          capitalizeChars, upperChar_digit hd]
    | cons c rest => exact capitalize_decapitalize_append (List.cons_ne_nil c rest) _
  rw [hfront, hwhole, List.filter_append, List.filter_cons_of_pos hplain]

/-! ### What is kept of a text -/

/-- The text in front of its first digit. -/
def beforeDigit (s : String) : String :=
  String.ofList (s.toList.takeWhile fun c => !isAsciiDigit c)

theorem digitless_beforeDigit (s : String) : Digitless (beforeDigit s).toList := by
  intro c hc
  rw [beforeDigit, String.toList_ofList] at hc
  simpa using List.mem_takeWhile_imp hc

/-- Letters, digits and underscores behind a letter or an underscore. -/
def IsTypeName (cs : List Char) : Prop :=
  ∃ c rest, cs = c :: rest ∧ (isAsciiLetter c = true ∨ c = '_') ∧ AllWord rest

theorem isTypeName_cons_iff {c : Char} {cs : List Char} :
    IsTypeName (c :: cs) ↔ (isAsciiLetter c = true ∨ c = '_') ∧ AllWord cs := by
  constructor
  · rintro ⟨_, _, heq, h⟩
    cases heq
    exact h
  · exact fun h => ⟨c, cs, rfl, h⟩

instance decidableIsTypeName : (cs : List Char) → Decidable (IsTypeName cs)
  | [] => isFalse fun ⟨_, _, h, _⟩ => List.cons_ne_nil _ _ h.symm
  | _ :: _ => decidable_of_iff _ isTypeName_cons_iff.symm

/-- A way to keep letters and digits of a text that keeps the digits and adds none, and in which
nothing that follows a digit matters for what stands in front of it. -/
structure Keeping (kept : List Char → List Char) : Prop where
  plain (cs : List Char) : ∀ c ∈ kept cs, isPlain c = true
  digitless {cs : List Char} (h : Digitless cs) : Digitless (kept cs)
  digit (u : List Char) {d : Char} (hd : isAsciiDigit d = true) (v : List Char) :
    ∃ rest, kept (u ++ d :: v) = kept u ++ d :: rest

theorem keeping_filter : Keeping fun cs => cs.filter isPlain where
  plain _ _ hc := (List.mem_filter.1 hc).2
  digitless h c hc := h c (List.mem_of_mem_filter hc)
  digit u d hd v :=
    ⟨v.filter isPlain, by
      rw [List.filter_append, List.filter_cons_of_pos (isPlain_of_isAsciiDigit hd)]⟩

theorem keeping_pascalChars : Keeping fun cs => (pascalChars cs).filter isPlain where
  plain _ _ hc := (List.mem_filter.1 hc).2
  digitless h c hc := h.pascalChars c (List.mem_of_mem_filter hc)
  digit u _ hd v := kept_append_digit u hd v

/-- What is kept begins with a digit exactly if the text has a digit and nothing is kept of what
stands in front of the first one. -/
theorem Keeping.head?_iff {kept : List Char → List Char} (h : Keeping kept) (s : String) :
    (∀ c ∈ (kept s.toList).head?, isAsciiDigit c = false) ↔
      ((∃ d ∈ s.toList, isAsciiDigit d = true) → kept (beforeDigit s).toList ≠ []) := by
  have hfront := h.digitless (digitless_beforeDigit s)
  cases htail : s.toList.dropWhile fun c => !isAsciiDigit c with
  | nil =>
      have hnone : Digitless s.toList := by
        simpa [Digitless] using List.dropWhile_eq_nil_iff.1 htail
      refine iff_of_true (fun c hc => h.digitless hnone c (List.mem_of_mem_head? hc)) ?_
      rintro ⟨d, hd, hdigit⟩
      rw [hnone d hd] at hdigit
      cases hdigit
  | cons d v =>
      have hne := htail.trans_ne (List.cons_ne_nil d v)
      have hd : isAsciiDigit d = true := by
        simpa [htail] using List.head_dropWhile_not (fun c => !isAsciiDigit c) hne
      have hs : s.toList = (beforeDigit s).toList ++ d :: v := by
        rw [beforeDigit, String.toList_ofList, ← htail, List.takeWhile_append_dropWhile]
      obtain ⟨rest, hrest⟩ := h.digit (beforeDigit s).toList hd v
      rw [← hs] at hrest
      rw [hrest]
      cases hkept : kept (beforeDigit s).toList with
      | nil =>
          refine iff_of_false (fun hfirst => ?_) fun hmust => ?_
          · rw [hfirst d rfl] at hd
            cases hd
          · exact hmust ⟨d, by rw [hs]; simp, hd⟩ rfl
      | cons c cs =>
          refine iff_of_true (fun x hx => ?_) fun _ => List.cons_ne_nil c cs
          cases hx
          exact hfront c (by rw [hkept]; exact List.mem_cons_self)

theorem isTypeName_cons_of_isPlain {c : Char} {cs : List Char} (hc : isPlain c = true)
    (h : AllWord cs) : IsTypeName (c :: cs) ↔ isAsciiDigit c = false := by
  have hfirst : (isAsciiLetter c = true ∨ c = '_') ↔ isAsciiDigit c = false := by
    refine forall_isWordChar (P := fun c => isPlain c = true →
      ((isAsciiLetter c = true ∨ c = '_') ↔ isAsciiDigit c = false)) ?_
      (isWordChar_of_isPlain hc) hc
    decide
  rw [isTypeName_cons_iff, hfirst, and_iff_left h]

/-- Letters and digits are the name of a type, with the word characters that follow them, unless the
first of them is a digit. -/
theorem isTypeName_append {cs ds : List Char} (hcs : ∀ c ∈ cs, isPlain c = true)
    (hds : AllWord ds) (hempty : cs = [] → IsTypeName ds) :
    IsTypeName (cs ++ ds) ↔ ∀ c ∈ cs.head?, isAsciiDigit c = false := by
  cases cs with
  | nil => exact iff_of_true (hempty rfl) (by simp)
  | cons c cs =>
      obtain ⟨hc, hcs⟩ := List.forall_mem_cons.1 hcs
      have hrest : AllWord (cs ++ ds) :=
        AllWord.append (fun d hd => isWordChar_of_isPlain (hcs d hd)) hds
      rw [List.cons_append, isTypeName_cons_of_isPlain hc hrest]
      simp

theorem toList_sanitize (s : String) : (sanitize s).toList = s.toList.filter isPlain :=
  String.toList_ofList

end Name

/-! ### Themes and clients -/

theorem Project.Config.isTypeName_themeName (c : Project.Config) :
    Name.IsTypeName c.themeName.toList ↔
      ((∃ d ∈ c.name.toList, isAsciiDigit d = true) →
        Name.sanitize (Name.toPascal (Name.beforeDigit c.name)) ≠ "") := by
  have hkept (s : String) : (Name.sanitize (Name.toPascal s)).toList =
      (Name.pascalChars s.toList).filter Name.isPlain := by
    rw [Name.toList_sanitize, Name.toList_toPascal]
  -- where nothing is kept the other name stands behind it, so both cases have this form
  obtain ⟨rest, hname, hrest, hempty⟩ : ∃ rest,
      c.themeName.toList = (Name.pascalChars c.name.toList).filter Name.isPlain ++ rest ∧
      Name.AllWord rest ∧
      ((Name.pascalChars c.name.toList).filter Name.isPlain = [] → Name.IsTypeName rest) := by
    rw [themeName, ← hkept]
    split
    · rename_i h
      rw [String.isEmpty_iff] at h
      rw [h]
      exact ⟨"AppTheme".toList, rfl, by decide, fun _ => by decide⟩
    · rename_i h
      rw [String.isEmpty_iff, ← String.toList_eq_nil_iff] at h
      exact ⟨[], (List.append_nil _).symm, by decide, fun hnil => absurd hnil h⟩
  rw [hname, Name.isTypeName_append (Name.keeping_pascalChars.plain _) hrest hempty,
    Name.keeping_pascalChars.head?_iff, ne_eq, ne_eq, ← String.toList_eq_nil_iff, hkept]

theorem Api.isTypeName_clientName {api : Api} {title : String}
    (h : api.name = Name.sanitize title) : Name.IsTypeName api.clientName.toList ↔
      ((∃ d ∈ title.toList, isAsciiDigit d = true) →
        Name.sanitize (Name.beforeDigit title) ≠ "") := by
  rw [clientName, String.toList_append, h, Name.toList_sanitize,
    Name.isTypeName_append (Name.keeping_filter.plain _) (by decide), Name.keeping_filter.head?_iff,
    ne_eq, ne_eq, ← String.toList_eq_nil_iff, Name.toList_sanitize]
  exact fun _ => by decide

/-- The name of a theme is that of a type exactly if the name of the project has no digit, or
something is kept of what stands in front of the first one. The same goes for the name of a client
and the title of its document. -/
theorem type_names_iff (c : Project.Config) :
    (Name.IsTypeName c.themeName.toList ↔
      ((∃ d ∈ c.name.toList, isAsciiDigit d = true) →
        Name.sanitize (Name.toPascal (Name.beforeDigit c.name)) ≠ "")) ∧
    ∀ doc api, Api.ofDocument doc = .ok api →
      ∃ title, Api.memberOrNull (Api.memberOrNull doc "info") "title" = .str title ∧
        (Name.IsTypeName api.clientName.toList ↔
          ((∃ d ∈ title.toList, isAsciiDigit d = true) →
            Name.sanitize (Name.beforeDigit title) ≠ "")) := by
  refine ⟨c.isTypeName_themeName, fun doc api hdoc => ?_⟩
  obtain ⟨title, htitle, hname⟩ := Api.exists_title hdoc
  exact ⟨title, htitle, Api.isTypeName_clientName hname⟩

/-- A document with a digit behind the letters of its title. -/
def routesDocument : Value :=
  .record [("info", .record [("title", .str "Routes 2"), ("version", .str "1")]),
    ("paths", .record [("/routes", .record [("get", .record [])])])]

theorem type_names_routesDocument :
    Name.IsTypeName (Project.Config.new "my-app" ["ios"] none).themeName.toList ∧
      ∃ api, Api.ofDocument routesDocument = .ok api ∧ api.clientName = "Routes2APIClient" ∧
        Name.IsTypeName api.clientName.toList := by
  obtain ⟨api, hdoc, hname⟩ : ∃ api, Api.ofDocument routesDocument = .ok api ∧
      api.clientName = "Routes2APIClient" :=
    exists_ok_of_any (by decide +kernel)
  obtain ⟨hproject, hclients⟩ := type_names_iff (Project.Config.new "my-app" ["ios"] none)
  obtain ⟨title, htitle, hclient⟩ := hclients routesDocument api hdoc
  have hroutes : title = "Routes 2" := by
    cases htitle.symm.trans (rfl : _ = Value.str "Routes 2")
    rfl
  subst hroutes
  have htheme : Name.sanitize (Name.toPascal (Name.beforeDigit "my-app")) = "MyApp" := by
    decide +kernel
  have hfront : Name.sanitize (Name.beforeDigit "Routes 2") = "Routes" := by decide +kernel
  refine ⟨hproject.2 fun _ => ?_, api, hdoc, hname, hclient.2 fun _ => ?_⟩
  · rw [Project.Config.new, htheme]
    decide
  · rw [hfront]
    decide

/-- A document with a digit at the beginning of its title. -/
def digitDocument : Value :=
  .record [("info", .record [("title", .str "3D Orders"), ("version", .str "1")]),
    ("paths", .record [("/orders", .record [("get", .record [])])])]

theorem not_isTypeName_digitDocument :
    ¬ Name.IsTypeName (Project.Config.new "3d-app" ["ios"] none).themeName.toList ∧
      ∃ api, Api.ofDocument digitDocument = .ok api ∧ ¬ Name.IsTypeName api.clientName.toList := by
  exact ⟨by decide +kernel, exists_ok_of_any (by decide +kernel)⟩

end SpecForge
