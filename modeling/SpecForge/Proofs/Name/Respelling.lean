import Mathlib.Data.List.DropRight
import Mathlib.Logic.Relation
import SpecForge.Proofs.Name
import SpecForge.Proofs.Text.Blank

/-!
# Texts with the same identifier

An identifier does not keep everything of the text that it is made from. What is lost can be said
without the conversion: a text is respelled step by step, each step being a change in one place that
is of no account, and two texts have the same identifier if and only if one of them can be respelled
into the other. For completeness every text is respelled into one that is made from its identifier
alone, in which each underscore of the identifier stands twice.
-/

namespace SpecForge.Name

open Text

/-- ASCII letters and digits. All other characters count as underscores. -/
def isPlain (c : Char) : Bool := isAsciiLetter c || isAsciiDigit c

/-- A change of a text that its identifier does not show. -/
inductive Respelling : List Char → List Char → Prop
  /-- A character that is neither a letter nor a digit is as good as an underscore. -/
  | mark (u : List Char) {c : Char} (v : List Char) (hc : isPlain c = false) :
      Respelling (u ++ c :: v) (u ++ '_' :: v)
  /-- An underscore at the beginning may go. -/
  | front (cs : List Char) : Respelling ('_' :: cs) cs
  /-- An underscore at the end may go. -/
  | back (cs : List Char) : Respelling (cs ++ ['_']) cs
  /-- The last one of an odd number of underscores may go, and what follows it gets a capital. -/
  | capital (u : List Char) {x : Char} (k : Nat) {c : Char} (v : List Char)
      (hx : isPlain x = true) (hc : isPlain c = true) :
      Respelling (u ++ x :: (List.replicate (2 * k) '_' ++ '_' :: c :: v))
        (u ++ x :: (List.replicate (2 * k) '_' ++ (upperChar c ++ v)))
  /-- The first letter may be a small one. -/
  | initial {c : Char} (cs : List Char) (hc : isPlain c = true) :
      Respelling (c :: cs) (lowerChar c ++ cs)
  /-- Where there is nothing, the word `value` is understood. -/
  | empty : Respelling [] "value".toList

/-- Two texts one of which can be respelled into the other. -/
def SpelledAlike (s t : String) : Prop := Relation.EqvGen Respelling s.toList t.toList

/-! ### Letters and digits -/

theorem isWordChar_eq (c : Char) : isWordChar c = (isPlain c || c == '_') := rfl

theorem isWordChar_of_isPlain {c : Char} (h : isPlain c = true) : isWordChar c = true := by
  rw [isWordChar_eq, h, Bool.true_or]

theorem ne_underscore {c : Char} (h : isPlain c = true) : c ≠ '_' := by
  rintro rfl
  exact absurd h (by decide)

theorem beq_underscore {c : Char} (h : isPlain c = true) : (c == '_') = false :=
  beq_eq_false_iff_ne.2 (ne_underscore h)

theorem isPlain_of_isWordChar {c : Char} (h : isWordChar c = true) (hne : c ≠ '_') :
    isPlain c = true := by
  rw [isWordChar_eq, Bool.or_eq_true, beq_iff_eq] at h
  exact h.resolve_right hne

theorem isSeparator_of_isPlain {c : Char} (h : isPlain c = true) : isSeparator c = false := by
  rw [isSeparator, Bool.or_eq_false_iff, beq_eq_false_iff_ne, beq_eq_false_iff_ne]
  refine ⟨?_, ne_underscore h⟩
  rintro rfl
  exact absurd h (by decide)

theorem eq_underscore_of_isSeparator {c : Char} (hword : isWordChar c = true)
    (hs : isSeparator c = true) : c = '_' := by
  by_contra hne
  rw [isSeparator_of_isPlain (isPlain_of_isWordChar hword hne)] at hs
  cases hs

/-- The forms of a letter or digit in upper and in lower case are each a letter or digit again, and
lower case is reached in one step. -/
theorem isPlain_changed {c : Char} (h : isPlain c = true) :
    isPlain c.toUpper = true ∧ isPlain c.toLower = true ∧ c.toLower.toLower = c.toLower := by
  refine forall_isWordChar (P := fun c => isPlain c = true →
    isPlain c.toUpper = true ∧ isPlain c.toLower = true ∧ c.toLower.toLower = c.toLower) ?_
    (isWordChar_of_isPlain h) h
  decide

theorem exists_upperChar {c : Char} (h : isPlain c = true) :
    ∃ d, isPlain d = true ∧ upperChar c = [d] := by
  refine ⟨c.toUpper, (isPlain_changed h).1, ?_⟩
  rw [upperChar, if_pos (toNat_lt_of_isWordChar (isWordChar_of_isPlain h))]

theorem exists_lowerChar {c : Char} (h : isPlain c = true) :
    ∃ d, isPlain d = true ∧ lowerChar c = [d] ∧ lowerChar d = [d] := by
  obtain ⟨_, hlower, htwice⟩ := isPlain_changed h
  refine ⟨c.toLower, hlower, ?_, ?_⟩
  · rw [lowerChar, if_pos (toNat_lt_of_isWordChar (isWordChar_of_isPlain h))]
  · rw [lowerChar, if_pos (toNat_lt_of_isWordChar (isWordChar_of_isPlain hlower)), htwice]

/-! ### Cleaned texts -/

/-- Nothing is cut off before a letter or digit. -/
theorem rdropWhile_append_cons (u : List Char) {x : Char} (hx : isPlain x = true) (v : List Char) :
    (u ++ x :: v).rdropWhile (· == '_') = u ++ x :: v.rdropWhile (· == '_') := by
  have hreverse : (u ++ x :: v).reverse = v.reverse ++ x :: u.reverse := by simp
  have hstop := dropWhile_append_stop (p := (· == '_')) v.reverse (beq_underscore hx) u.reverse
  rw [List.rdropWhile, hreverse, hstop, List.rdropWhile]
  simp

/-- The text with underscores for everything that is neither a letter nor a digit. -/
def underscored (cs : List Char) : List Char := cs.map fun c => if isWordChar c then c else '_'

theorem underscored_append (u v : List Char) :
    underscored (u ++ v) = underscored u ++ underscored v := List.map_append

theorem underscored_cons (c : Char) (cs : List Char) :
    underscored (c :: cs) = (if isPlain c then c else '_') :: underscored cs := by
  rw [underscored, List.map_cons, ← underscored, isWordChar_eq]
  congr 1
  by_cases hc : c = '_'
  · simp [hc]
  · simp [hc]

/-- No letter, digit or underscore is blank. -/
theorem isBlank_of_isWordChar {c : Char} (h : isWordChar c = true) : isBlank c = false := by
  refine forall_isWordChar (P := fun c => isBlank c = false) ?_ h
  decide

theorem underscored_of_blank {cs : List Char} (h : ∀ c ∈ cs, isBlank c = true) :
    ∀ c ∈ underscored cs, (c == '_') = true := by
  intro c hc
  obtain ⟨d, hd, rfl⟩ := List.mem_map.1 hc
  split
  · rename_i hword
    have hblank := isBlank_of_isWordChar hword
    rw [h d hd] at hblank
    cases hblank
  · rfl

/-- Blanks at the ends need no cutting of their own: they are underscores before long. -/
theorem cleaned_eq (cs : List Char) : cleaned cs = trim (· == '_') (underscored cs) := by
  let behind := (cs.dropWhile isBlank).reverse
  have hsplit : cs =
      cs.takeWhile isBlank ++ (trim isBlank cs ++ (behind.takeWhile isBlank).reverse) := by
    rw [trim, ← List.reverse_append, List.takeWhile_append_dropWhile, List.reverse_reverse,
      List.takeWhile_append_dropWhile]
  have hhead := underscored_of_blank (List.all_eq_true.1 (List.all_takeWhile (l := cs)))
  have htail : ∀ c ∈ underscored (behind.takeWhile isBlank).reverse, (c == '_') = true :=
    underscored_of_blank fun d hd =>
      List.all_eq_true.1 List.all_takeWhile d (List.mem_reverse.1 hd)
  calc cleaned cs = trim (· == '_') (underscored (trim isBlank cs)) := rfl
    _ = trim (· == '_') (underscored (trim isBlank cs) ++
          underscored (behind.takeWhile isBlank).reverse) := (trim_append_right _ htail).symm
    _ = trim (· == '_') (underscored (cs.takeWhile isBlank) ++ (underscored (trim isBlank cs) ++
          underscored (behind.takeWhile isBlank).reverse)) :=
        (trim_append_left hhead _).symm
    _ = trim (· == '_') (underscored cs) := by
        rw [← underscored_append, ← underscored_append, ← hsplit]

theorem cleaned_append_cons (u : List Char) {x : Char} (hx : isPlain x = true) (v : List Char) :
    cleaned (u ++ x :: v) =
      (underscored u).dropWhile (· == '_') ++ x :: (underscored v).rdropWhile (· == '_') := by
  have hstop := dropWhile_append_stop (p := (· == '_')) (underscored u) (beq_underscore hx)
    (underscored v)
  rw [cleaned_eq, underscored_append, underscored_cons, if_pos hx, trim, ← List.rdropWhile, hstop,
    rdropWhile_append_cons _ hx]

theorem cleaned_cons {c : Char} (hc : isPlain c = true) (cs : List Char) :
    cleaned (c :: cs) = c :: (underscored cs).rdropWhile (· == '_') :=
  cleaned_append_cons [] hc cs

/-- What is left begins with a letter or digit, and ends with one. -/
theorem ends_of_cleaned {cs rest : List Char} {c : Char} (h : cleaned cs = c :: rest) :
    isPlain c = true ∧ ∀ d ∈ rest.getLast?, isPlain d = true := by
  have hplain : ∀ d ∈ cleaned cs, ¬ (d == '_') = true → isPlain d = true := by
    intro d hd hne
    exact isPlain_of_isWordChar (allWord_cleaned cs d hd) (by simpa using hne)
  have hcut : c :: rest = ((underscored cs).dropWhile (· == '_')).rdropWhile (· == '_') := by
    rw [← h, cleaned_eq]
    rfl
  constructor
  · obtain ⟨tail, htail⟩ :=
      List.rdropWhile_prefix (· == '_') ((underscored cs).dropWhile (· == '_'))
    rw [← hcut, List.cons_append] at htail
    have hhead := List.head?_dropWhile_not (· == '_') (underscored cs)
    rw [← htail, List.head?_cons] at hhead
    exact hplain c (h ▸ List.mem_cons_self) (by simpa using hhead)
  · intro d hd
    have hne : ((underscored cs).dropWhile (· == '_')).rdropWhile (· == '_') ≠ [] :=
      hcut ▸ List.cons_ne_nil c rest
    have hlast := List.rdropWhile_last_not (· == '_') _ hne
    have hd' : (((underscored cs).dropWhile (· == '_')).rdropWhile (· == '_')).getLast hne = d := by
      rw [List.getLast_eq_iff_getLast?_eq_some, ← hcut, List.getLast?_cons, hd]
      rfl
    rw [hd'] at hlast
    refine hplain d ?_ hlast
    rw [h]
    exact List.mem_cons_of_mem c (List.mem_of_getLast? hd)

/-! ### Joined words -/

theorem joinWords_cons {c : Char} (hc : isPlain c = true) (cs : List Char) :
    joinWords (c :: cs) = c :: joinWords cs := by
  cases cs with
  | nil => rfl
  | cons d cs => rw [joinWords, isSeparator_of_isPlain hc, Bool.false_and, if_neg (by decide)]

theorem joinWords_separator {c d : Char} (hc : isSeparator c = true) (hd : isWordChar d = true)
    (cs : List Char) : joinWords (c :: d :: cs) = upperChar d ++ joinWords cs := by
  have hbreak : d ≠ '\n' := by
    rintro rfl
    exact absurd hd (by decide)
  rw [joinWords, if_pos]
  simp [hc, hbreak]

/-- Among letters, digits and underscores all separators but the last character are dropped. -/
theorem isPlain_of_not_joined {c d : Char} {rest : List Char} (h : AllWord (c :: d :: rest))
    (hs : ¬ (isSeparator c && d != '\n') = true) : isPlain c = true := by
  apply isPlain_of_isWordChar (h c List.mem_cons_self)
  rintro rfl
  have hd := h d (List.mem_cons_of_mem _ List.mem_cons_self)
  have hbreak : d = '\n' := by simpa [isSeparator] using hs
  rw [hbreak] at hd
  exact absurd hd (by decide)

/-- What stands behind a letter or digit is joined on its own. -/
theorem joinWords_append_cons (u : List Char) {x : Char} (hx : isPlain x = true)
    (v : List Char) : joinWords (u ++ x :: v) = joinWords (u ++ [x]) ++ joinWords v := by
  induction u using joinWords.induct with
  | case1 c d rest hs ih =>
      simp only [List.cons_append, joinWords, if_pos hs, ih, List.append_assoc]
  | case2 c d rest hs ih =>
      rw [List.cons_append, List.cons_append] at ih
      simp only [List.cons_append, joinWords, if_neg hs, ih]
  | case3 c =>
      by_cases hs : (isSeparator c && x != '\n') = true
      · simp [joinWords, hs]
      · simp [joinWords, hs, joinWords_cons hx]
  | case4 => exact joinWords_cons hx v

/-- Two underscores make one. -/
theorem joinWords_replicate (k : Nat) (cs : List Char) :
    joinWords (List.replicate (2 * k) '_' ++ cs) = List.replicate k '_' ++ joinWords cs := by
  induction k with
  | zero => rfl
  | succ k ih =>
      have hupper : upperChar '_' = ['_'] := by decide
      have htwo : List.replicate (2 * (k + 1)) '_' =
          '_' :: '_' :: List.replicate (2 * k) '_' := rfl
      rw [htwo, List.cons_append, List.cons_append, joinWords_separator (by decide) (by decide),
        ih, hupper]
      rfl

/-! ### Respellings keep the identifier -/

theorem identifierChars_of_cleaned {a b : List Char} (h : cleaned a = cleaned b) :
    identifierChars a = identifierChars b := by
  rw [identifierChars, identifierChars, h]

theorem identifierChars_of_camelChars {a b : List Char} (ha : cleaned a ≠ []) (hb : cleaned b ≠ [])
    (h : camelChars (cleaned a) = camelChars (cleaned b)) :
    identifierChars a = identifierChars b := by
  have ha : (cleaned a).isEmpty = false := by simpa using ha
  have hb : (cleaned b).isEmpty = false := by simpa using hb
  rw [identifierChars, identifierChars, ha, hb, h]

/-- Where the words behind a letter or digit are joined alike, so are those of the whole text. -/
theorem camelChars_append_cons (u : List Char) {x : Char} (hx : isPlain x = true)
    {v w : List Char} (h : joinWords v = joinWords w) :
    camelChars (u ++ x :: v) = camelChars (u ++ x :: w) := by
  rw [camelChars, joinWords_append_cons u hx, h, ← joinWords_append_cons u hx, camelChars]

theorem underscored_replicate (n : Nat) :
    underscored (List.replicate n '_') = List.replicate n '_' := by
  rw [underscored, List.map_replicate]
  rfl

theorem Respelling.identifierChars_eq {a b : List Char} (h : Respelling a b) :
    identifierChars a = identifierChars b := by
  cases h with
  | mark u v hc =>
      apply identifierChars_of_cleaned
      rw [cleaned_eq, cleaned_eq, underscored_append, underscored_append, underscored_cons,
        underscored_cons, hc]
      rfl
  | front cs =>
      apply identifierChars_of_cleaned
      rw [cleaned_eq, cleaned_eq]
      exact trim_append_left (List.forall_mem_singleton.2 rfl) (underscored b)
  | back cs =>
      apply identifierChars_of_cleaned
      rw [cleaned_eq, cleaned_eq, underscored_append]
      exact trim_append_right (underscored b) (List.forall_mem_singleton.2 rfl)
  | @capital u x k c v hx hc =>
      obtain ⟨d, hd, hupper⟩ := exists_upperChar hc
      have hmarked : underscored (List.replicate (2 * k) '_' ++ '_' :: c :: v) =
          (List.replicate (2 * k) '_' ++ ['_']) ++ c :: underscored v := by
        rw [underscored_append, underscored_replicate, underscored_cons, underscored_cons,
          if_pos hc, if_neg (by decide)]
        simp
      have hcapital : underscored (List.replicate (2 * k) '_' ++ d :: v) =
          List.replicate (2 * k) '_' ++ d :: underscored v := by
        rw [underscored_append, underscored_replicate, underscored_cons, if_pos hd]
      rw [hupper, List.singleton_append]
      apply identifierChars_of_camelChars
      · rw [cleaned_append_cons u hx]
        simp
      · rw [cleaned_append_cons u hx]
        simp
      · rw [cleaned_append_cons u hx, cleaned_append_cons u hx, hmarked, hcapital,
          rdropWhile_append_cons _ hc, rdropWhile_append_cons _ hd]
        apply camelChars_append_cons _ hx
        rw [List.append_assoc, joinWords_replicate, joinWords_replicate, List.singleton_append,
          joinWords_separator (by decide) (isWordChar_of_isPlain hc), joinWords_cons hd, hupper]
        rfl
  | @initial c cs hc =>
      obtain ⟨d, hd, hlower, htwice⟩ := exists_lowerChar hc
      rw [hlower, List.singleton_append]
      apply identifierChars_of_camelChars
      · simp [cleaned_cons hc]
      · simp [cleaned_cons hd]
      · rw [cleaned_cons hc, cleaned_cons hd, camelChars, camelChars, joinWords_cons hc,
          joinWords_cons hd, decapitalizeChars, decapitalizeChars, hlower, htwice]
  | empty => decide

/-! ### Respelling into what the identifier says -/

/-- Each underscore twice. -/
def doubled (cs : List Char) : List Char := cs.flatMap fun c => if c = '_' then ['_', '_'] else [c]

theorem doubled_underscore (cs : List Char) : doubled ('_' :: cs) = '_' :: '_' :: doubled cs := rfl

theorem doubled_cons {c : Char} (hc : isPlain c = true) (cs : List Char) :
    doubled (c :: cs) = c :: doubled cs := by
  rw [doubled, List.flatMap_cons, if_neg (ne_underscore hc)]
  rfl

theorem respelled_underscored (u cs : List Char) :
    Relation.EqvGen Respelling (u ++ cs) (u ++ underscored cs) := by
  induction cs generalizing u with
  | nil => exact .refl _
  | cons c cs ih =>
      have hrest := ih (u ++ [if isPlain c then c else '_'])
      rw [List.append_assoc, List.append_assoc] at hrest
      rw [underscored_cons]
      refine .trans _ _ _ ?_ hrest
      split
      · exact .refl _
      · rename_i hc
        exact .rel _ _ (.mark u cs (by simpa using hc))

theorem respelled_dropWhile (cs : List Char) :
    Relation.EqvGen Respelling cs (cs.dropWhile (· == '_')) := by
  induction cs with
  | nil => exact .refl _
  | cons c cs ih =>
      rw [List.dropWhile_cons]
      split
      · rename_i hc
        rw [beq_iff_eq.1 hc]
        exact .trans _ _ _ (.rel _ _ (.front cs)) ih
      · exact .refl _

theorem respelled_rdropWhile (cs : List Char) :
    Relation.EqvGen Respelling cs (cs.rdropWhile (· == '_')) := by
  induction cs using List.reverseRecOn with
  | nil => exact .refl _
  | append_singleton cs c ih =>
      rw [List.rdropWhile_concat]
      split
      · rename_i hc
        rw [beq_iff_eq.1 hc]
        exact .trans _ _ _ (.rel _ _ (.back cs)) ih
      · exact .refl _

theorem respelled_cleaned (cs : List Char) :
    Relation.EqvGen Respelling cs (cleaned cs) := by
  have hmarked := respelled_underscored [] cs
  rw [cleaned_eq]
  exact .trans _ _ _ hmarked (.trans _ _ _ (respelled_dropWhile _) (respelled_rdropWhile _))

/-- Behind a letter or digit and an even number of underscores, words are respelled into what is
left of them when they are joined. -/
theorem respelled_joinWords (u : List Char) {x : Char} (hx : isPlain x = true) (k : Nat)
    {cs : List Char} (hword : AllWord cs) (hlast : ∀ d ∈ cs.getLast?, isPlain d = true) :
    Relation.EqvGen Respelling (u ++ x :: (List.replicate (2 * k) '_' ++ cs))
      (u ++ x :: (List.replicate (2 * k) '_' ++ doubled (joinWords cs))) := by
  -- what has been read moves to the front: two more underscores, or everything up to a letter
  induction cs using joinWords.induct generalizing u x k with
  | case1 c d rest hs ih =>
      have hd := hword d (by simp)
      have hrest : AllWord rest := fun e he => hword e (by simp [he])
      have hend : ∀ e ∈ rest.getLast?, isPlain e = true := by
        intro e he
        apply hlast e
        rw [List.getLast?_cons, List.getLast?_cons, he]
        rfl
      obtain rfl := eq_underscore_of_isSeparator (hword c (by simp)) (Bool.and_eq_true_iff.1 hs).1
      by_cases hmark : d = '_'
      · subst hmark
        have hmove : ∀ l, List.replicate (2 * k) '_' ++ '_' :: '_' :: l =
            List.replicate (2 * (k + 1)) '_' ++ l := by
          intro l
          rw [Nat.mul_succ, List.replicate_add, List.append_assoc]
          rfl
        have hupper : upperChar '_' = ['_'] := by decide
        rw [joinWords_separator (by decide) hd, hupper, List.singleton_append, doubled_underscore,
          hmove, hmove]
        exact ih u hx (k + 1) hrest hend
      · have hd' := isPlain_of_isWordChar hd hmark
        obtain ⟨D, hD, hupper⟩ := exists_upperChar hd'
        have hstep := Relation.EqvGen.rel _ _ (Respelling.capital u k rest hx hd')
        have hjoin := ih (u ++ x :: List.replicate (2 * k) '_') hD 0 hrest hend
        rw [joinWords_separator (by decide) hd, hupper, List.singleton_append, doubled_cons hD]
        rw [hupper] at hstep
        exact .trans _ _ _ hstep (by simpa using hjoin)
  | case2 c d rest hs ih =>
      have hc := isPlain_of_not_joined hword hs
      have hjoin := ih (u ++ x :: List.replicate (2 * k) '_') hc 0
        (fun e he => hword e (List.mem_cons_of_mem c he)) (fun e he => hlast e (by simpa using he))
      rw [joinWords_cons hc, doubled_cons hc]
      simpa using hjoin
  | case3 c =>
      have hc := hlast c rfl
      rw [joinWords, doubled_cons hc]
      exact .refl _
  | case4 => exact .refl _

theorem respelled_camelChars {cs : List Char} (hne : cleaned cs ≠ []) :
    Relation.EqvGen Respelling (cleaned cs) (doubled (camelChars (cleaned cs))) := by
  have hword := allWord_cleaned cs
  cases hcs : cleaned cs with
  | nil => exact absurd hcs hne
  | cons c rest =>
      obtain ⟨hc, hlast⟩ := ends_of_cleaned hcs
      rw [hcs] at hword
      obtain ⟨d, hd, hlower, _⟩ := exists_lowerChar hc
      have hjoin := respelled_joinWords [] hc 0
        (fun e he => hword e (List.mem_cons_of_mem c he)) hlast
      have hinitial := Relation.EqvGen.rel _ _ (Respelling.initial (doubled (joinWords rest)) hc)
      rw [camelChars, joinWords_cons hc, decapitalizeChars, hlower, List.singleton_append,
        doubled_cons hd]
      rw [hlower] at hinitial
      exact .trans _ _ _ hjoin hinitial

/-- Every text is respelled into one that is made from its identifier. -/
theorem respelled_identifierChars (cs : List Char) :
    Relation.EqvGen Respelling cs (doubled (identifierChars cs)) := by
  refine .trans _ _ _ (respelled_cleaned cs) ?_
  by_cases hnil : cleaned cs = []
  · have hvalue : doubled (identifierChars cs) = "value".toList := by
      rw [identifierChars, hnil]
      decide
    rw [hnil, hvalue]
    exact .rel _ _ .empty
  · have hcamel := respelled_camelChars hnil
    have hempty : ¬ (cleaned cs).isEmpty = true := by simpa using hnil
    rw [identifierChars, if_neg hempty]
    split
    · rename_i c rest heq
      rw [heq] at hcamel
      split
      · -- the underscore before a digit goes, twice
        refine .trans _ _ _ hcamel (.symm _ _ (.trans _ _ _ (.rel _ _ (.front _)) ?_))
        exact .rel _ _ (.front _)
      · exact hcamel
    · rename_i heq
      rw [heq] at hcamel
      exact hcamel

/-- Two texts have the same identifier if and only if one can be respelled into the other. -/
theorem toIdentifier_eq_iff {s t : String} : toIdentifier s = toIdentifier t ↔ SpelledAlike s t := by
  rw [toIdentifier, toIdentifier, String.ofList_inj]
  constructor
  · intro h
    refine .trans _ _ _ (respelled_identifierChars s.toList) (.symm _ _ ?_)
    rw [h]
    exact respelled_identifierChars t.toList
  · intro h
    rw [SpelledAlike] at h
    generalize s.toList = a, t.toList = b at h
    induction h with
    | rel _ _ h => exact h.identifierChars_eq
    | refl _ => rfl
    | symm _ _ _ ih => exact ih.symm
    | trans _ _ _ _ _ ih ih' => exact ih.trans ih'

/-- Texts have different identifiers if and only if none can be respelled into one behind it. -/
theorem nodup_map_toIdentifier_iff (texts : List String) :
    (texts.map toIdentifier).Nodup ↔ texts.Pairwise fun s t => ¬ SpelledAlike s t := by
  rw [List.Nodup, List.pairwise_map]
  simp only [ne_eq, toIdentifier_eq_iff]

/-! ### Identifiers with a capital -/

/-- An identifier begins with a small letter or with an underscore. -/
theorem identifierChars_eq_cons (cs : List Char) :
    ∃ c rest, identifierChars cs = c :: rest ∧ lowerChar c = [c] := by
  have hname : ∃ c rest, (if (cleaned cs).isEmpty then "value".toList
      else camelChars (cleaned cs)) = c :: rest ∧ lowerChar c = [c] := by
    cases hcs : cleaned cs with
    | nil => exact ⟨'v', _, rfl, by decide⟩
    | cons c rest =>
        have hc := (ends_of_cleaned hcs).1
        obtain ⟨d, _, hlower, htwice⟩ := exists_lowerChar hc
        refine ⟨d, joinWords rest, ?_, htwice⟩
        rw [List.isEmpty_cons, if_neg (by decide), camelChars, joinWords_cons hc,
          decapitalizeChars, hlower]
        rfl
  obtain ⟨c, rest, heq, hlower⟩ := hname
  rw [identifierChars, heq]
  change ∃ d more, (if isDigitLike c then '_' :: c :: rest else c :: rest) = d :: more ∧
    lowerChar d = [d]
  split
  · exact ⟨'_', _, rfl, by decide⟩
  · exact ⟨c, rest, rfl, hlower⟩

/-- The capital of an identifier can be taken back. -/
theorem decapitalize_capitalize_toIdentifier (s : String) :
    decapitalize (capitalize (toIdentifier s)) = toIdentifier s := by
  obtain ⟨c, rest, heq, hlower⟩ := identifierChars_eq_cons s.toList
  have hword : isWordChar c = true := by
    refine allWord_identifierChars s.toList c ?_
    rw [heq]
    exact List.mem_cons_self
  have hback : lowerChar c = [c] → upperChar c = [c.toUpper] ∧ lowerChar c.toUpper = [c] := by
    refine forall_isWordChar (P := fun c =>
      lowerChar c = [c] → upperChar c = [c.toUpper] ∧ lowerChar c.toUpper = [c]) ?_ hword
    decide
  obtain ⟨hupper, hback⟩ := hback hlower
  rw [toIdentifier, heq, capitalize, String.toList_ofList, capitalizeChars, hupper, decapitalize,
    String.toList_ofList, List.singleton_append, decapitalizeChars, hback, List.singleton_append]

theorem capitalize_toIdentifier_inj {s t : String} :
    capitalize (toIdentifier s) = capitalize (toIdentifier t) ↔ toIdentifier s = toIdentifier t := by
  constructor
  · intro h
    rw [← decapitalize_capitalize_toIdentifier s, h, decapitalize_capitalize_toIdentifier]
  · intro h
    rw [h]

/-! ### Texts that are identifiers -/

/-- Letters and digits only, and in front a small letter. -/
def IsCamel (cs : List Char) : Prop :=
  (∀ c ∈ cs, isPlain c = true) ∧ ∃ c ∈ cs.head?, 'a' ≤ c ∧ c ≤ 'z'

theorem joinWords_of_isPlain {cs : List Char} (h : ∀ c ∈ cs, isPlain c = true) :
    joinWords cs = cs := by
  induction cs with
  | nil => rfl
  | cons c cs ih =>
      rw [joinWords_cons (h c List.mem_cons_self), ih fun d hd => h d (List.mem_cons_of_mem c hd)]

theorem cleaned_of_isPlain {cs : List Char} (h : ∀ c ∈ cs, isPlain c = true) :
    cleaned cs = cs := by
  cases cs with
  | nil => rfl
  | cons c cs =>
      have hrest := fun d hd => h d (List.mem_cons_of_mem c hd)
      have hmarked : underscored cs = cs :=
        List.map_congr_left (fun d hd => if_pos (isWordChar_of_isPlain (hrest d hd))) |>.trans
          (List.map_id cs)
      rw [cleaned_cons (h c List.mem_cons_self), hmarked, List.rdropWhile_eq_self_iff.2]
      intro hne
      simpa using ne_underscore (hrest _ (List.getLast_mem hne))

theorem small_letter {c : Char} (hc : isPlain c = true) (hsmall : 'a' ≤ c ∧ c ≤ 'z') :
    lowerChar c = [c] ∧ isDigitLike c = false := by
  refine forall_isWordChar (P := fun c => 'a' ≤ c ∧ c ≤ 'z' →
    lowerChar c = [c] ∧ isDigitLike c = false) ?_ (isWordChar_of_isPlain hc) hsmall
  decide

theorem camelChars_of_isCamel {cs : List Char} (h : IsCamel cs) : camelChars cs = cs := by
  obtain ⟨hplain, c, hhead, hsmall⟩ := h
  obtain ⟨rest, rfl⟩ : ∃ rest, cs = c :: rest := List.head?_eq_some_iff.1 hhead
  rw [camelChars, joinWords_of_isPlain hplain, decapitalizeChars,
    (small_letter (hplain c List.mem_cons_self) hsmall).1]
  rfl

theorem toCamel_of_isCamel {s : String} (h : IsCamel s.toList) : toCamel s = s := by
  rw [toCamel, camelChars_of_isCamel h, String.ofList_toList]

/-- A text of this kind is its own identifier. -/
theorem toIdentifier_of_isCamel {s : String} (h : IsCamel s.toList) : toIdentifier s = s := by
  have hcamel := camelChars_of_isCamel h
  obtain ⟨hplain, c, hhead, hsmall⟩ := h
  obtain ⟨rest, hs⟩ : ∃ rest, s.toList = c :: rest := List.head?_eq_some_iff.1 hhead
  have hdigit := (small_letter (hplain c (List.mem_of_mem_head? hhead)) hsmall).2
  have hchars : identifierChars s.toList = s.toList := by
    rw [identifierChars, cleaned_of_isPlain hplain, hcamel, hs]
    simp [hdigit]
  rw [toIdentifier, hchars, String.ofList_toList]

end SpecForge.Name
