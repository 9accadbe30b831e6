import Mathlib.Data.List.DropRight
import SpecForge.Text.Quoted

/-!
# Reading what was written

Readers of the pieces that lines of code are made of: a fixed text at the beginning of a line, the
spelling of a type, and a text between two quotes. Each reader gives back what its writer wrote,
whatever follows in the line.

A type goes on up to the first sign that stands in no type. Commas and colons are such signs, but
not between brackets. So a text is read as a type only if all brackets in it are closed and none of
its signs has a meaning of its own.

A text between two quotes is written by two replacements, the backslashes first and then the quotes,
or in one go; both give the same. No quote stands inside that would end it before, and no backslash
that would hide its end.
-/

namespace SpecForge.Text

/-- What follows a text at the beginning of another one. -/
def after? : List Char → List Char → Option (List Char)
  | [], cs => some cs
  | _ :: _, [] => none
  | a :: head, c :: cs => if a = c then after? head cs else none

@[simp] theorem after?_nil (cs : List Char) : after? [] cs = some cs := rfl

theorem after?_eq_some_iff {head cs rest : List Char} :
    after? head cs = some rest ↔ cs = head ++ rest := by
  induction head generalizing cs with
  | nil => simp [eq_comm]
  | cons a head ih =>
      cases cs with
      | nil => simp [after?]
      | cons c cs =>
          by_cases h : a = c
          · simp [after?, h, ih]
          · simp [after?, h, Ne.symm h]

@[simp] theorem after?_append (head rest : List Char) :
    after? head (head ++ rest) = some rest :=
  after?_eq_some_iff.2 rfl

/-- What two texts have in common at the beginning does not matter. -/
theorem after?_append_append (common head cs : List Char) :
    after? (common ++ head) (common ++ cs) = after? head cs := by
  induction common with
  | nil => rfl
  | cons c common ih => rw [List.cons_append, List.cons_append, after?, if_pos rfl, ih]

/-- What follows a text, if the line goes on with it. -/
def skip (head : String) (cs : List Char) : List Char := (after? head.toList cs).getD cs

/-- Does the line go on with a text? -/
def goesOn (head : String) (cs : List Char) : Bool := (after? head.toList cs).isSome

/-- What stands before a text at the end of a line. -/
def before? (tail : String) (cs : List Char) : Option (List Char) :=
  (after? tail.toList.reverse cs.reverse).map List.reverse

theorem skip_append (head : String) (rest : List Char) :
    skip head (head.toList ++ rest) = rest := by
  rw [skip, after?_append]
  rfl

theorem skip_eq_self {head : String} {cs : List Char} (h : goesOn head cs = false) :
    skip head cs = cs := by
  rw [goesOn, Option.isSome_eq_false_iff, Option.isNone_iff_eq_none] at h
  rw [skip, h]
  rfl

theorem goesOn_append (head : String) (rest : List Char) :
    goesOn head (head.toList ++ rest) = true := by
  rw [goesOn, after?_append]
  rfl

/-- Where a line does not go on with a text, it does not go on with a longer one. -/
theorem goesOn_eq_false_of_left {head : String} {cs : List Char} (h : goesOn head cs = false)
    (more : String) : goesOn (head ++ more) cs = false := by
  rw [goesOn, Option.isSome_eq_false_iff, Option.isNone_iff_eq_none] at h ⊢
  rw [Option.eq_none_iff_forall_ne_some] at h ⊢
  intro rest hrest
  rw [after?_eq_some_iff, String.toList_append, List.append_assoc] at hrest
  exact h _ (after?_eq_some_iff.2 hrest)

theorem before?_append (front : List Char) (tail : String) :
    before? tail (front ++ tail.toList) = some front := by
  rw [before?, List.reverse_append, after?_append]
  simp

/-! ## Types -/

/-- The bracket that closes what a sign opens. -/
def closing? (c : Char) : Option Char :=
  if c = '(' then some ')' else if c = '[' then some ']' else if c = '<' then some '>' else none

/-- The signs that stand in no type: those of texts, of comments and of statements, and line breaks.
-/
def foreignSigns : List Char :=
  ['"', '\'', '`', '\\', '/', '=', ';', '\x7b', '\x7d', '\n', '\r']

/-- The brackets that are awaited behind a sign of a type, if it can stand where others are awaited.
-/
def awaitedBehind? (awaited : List Char) (c : Char) : Option (List Char) :=
  match closing? c with
  | some d => some (d :: awaited)
  | none =>
    if c ∈ foreignSigns then none
    else if c ∈ [')', ']', '>'] then
      if awaited.head? = some c then some awaited.tail else none
    else if awaited = [] ∧ c ∈ [',', ':'] then none
    else some awaited

/-- A type as far as it goes, and what follows it; no bracket may be left open. -/
def typeUpTo? (awaited : List Char) : List Char → Option (List Char × List Char)
  | [] => if awaited = [] then some ([], []) else none
  | c :: cs =>
    match awaitedBehind? awaited c with
    | some awaited => (typeUpTo? awaited cs).map fun r => (c :: r.1, r.2)
    | none => if awaited = [] then some ([], c :: cs) else none

/-- A type, and what follows it and the blanks behind it. -/
def type? (cs : List Char) : Option (String × List Char) := do
  let (type, rest) ← typeUpTo? [] cs
  let type := type.rdropWhile (· == ' ')
  if type = [] then none else some (String.ofList type, rest)

/-- The text is the spelling of a type: its brackets are closed, and no sign ends it before. -/
def IsType (s : String) : Prop :=
  s.toList.foldlM awaitedBehind? [] = some [] ∧ s ≠ "" ∧ s.toList.getLast? ≠ some ' '

instance (s : String) : Decidable (IsType s) := inferInstanceAs (Decidable (_ ∧ _ ∧ _))

/-- Nothing that stands here goes on with a type. -/
def EndsType (cs : List Char) : Prop := ∀ c ∈ cs.head?, awaitedBehind? [] c = none

instance (cs : List Char) : Decidable (EndsType cs) :=
  decidable_of_iff (cs.head?.all (awaitedBehind? [] · == none) = true)
    (by cases cs <;> simp [EndsType])

section Types

variable {awaited awaited' cs rest : List Char} {c : Char} {s : String}

/-- What is awaited further out does not matter. -/
theorem awaitedBehind?_append (h : awaitedBehind? awaited c = some awaited')
    (outer : List Char) : awaitedBehind? (awaited ++ outer) c = some (awaited' ++ outer) := by
  unfold awaitedBehind? at h ⊢
  cases hopen : closing? c with
  | some d =>
      rw [hopen] at h
      cases h
      rfl
  | none =>
      rw [hopen] at h
      dsimp only at h ⊢
      by_cases hforeign : c ∈ foreignSigns
      · rw [if_pos hforeign] at h
        cases h
      · rw [if_neg hforeign] at h ⊢
        by_cases hclose : c ∈ [')', ']', '>']
        · rw [if_pos hclose] at h ⊢
          cases awaited with
          | nil => cases h
          | cons d awaited =>
              by_cases hd : d = c
              · simpa [hd] using h
              · simp [hd] at h
        · rw [if_neg hclose] at h ⊢
          by_cases hends : awaited = [] ∧ c ∈ [',', ':']
          · rw [if_pos hends] at h
            cases h
          · rw [if_neg hends] at h
            cases h
            exact if_neg fun hnil => hends ⟨(List.append_eq_nil_iff.1 hnil.1).1, hnil.2⟩

theorem foldlM_awaitedBehind?_append (h : cs.foldlM awaitedBehind? awaited = some awaited')
    (outer : List Char) :
    cs.foldlM awaitedBehind? (awaited ++ outer) = some (awaited' ++ outer) := by
  induction cs generalizing awaited with
  | nil =>
      cases h
      rfl
  | cons c cs ih =>
      rw [List.foldlM_cons, Option.bind_eq_bind, Option.bind_eq_some_iff] at h
      obtain ⟨next, hnext, hrest⟩ := h
      rw [List.foldlM_cons, awaitedBehind?_append hnext]
      exact ih hrest

/-- The reader passes over what leads from one row of awaited brackets to another one. -/
theorem typeUpTo?_append (h : cs.foldlM awaitedBehind? awaited = some awaited')
    (rest : List Char) : typeUpTo? awaited (cs ++ rest) =
      (typeUpTo? awaited' rest).map fun r => (cs ++ r.1, r.2) := by
  induction cs generalizing awaited with
  | nil =>
      cases h
      simp
  | cons c cs ih =>
      rw [List.foldlM_cons, Option.bind_eq_bind, Option.bind_eq_some_iff] at h
      obtain ⟨next, hnext, hrest⟩ := h
      rw [List.cons_append, typeUpTo?, hnext]
      simp only [ih hrest, Option.map_map]
      rfl

theorem endsType_cons (h : awaitedBehind? [] c = none) (rest : List Char) :
    EndsType (c :: rest) := by
  rintro d ⟨⟩
  exact h

theorem typeUpTo?_of_endsType (h : EndsType rest) : typeUpTo? [] rest = some ([], rest) := by
  cases rest with
  | nil => rfl
  | cons c cs => rw [typeUpTo?, h c rfl, if_pos rfl]

/-- A type is read up to the blanks behind it. -/
theorem type?_append (hs : IsType s) {blanks : List Char} (hb : ∀ c ∈ blanks, c = ' ')
    (hrest : EndsType rest) : type? (s.toList ++ (blanks ++ rest)) = some (s, rest) := by
  obtain ⟨hclosed, hne, hlast⟩ := hs
  have hblanks : blanks.foldlM awaitedBehind? [] = some [] := by
    clear hrest
    induction blanks with
    | nil => rfl
    | cons c blanks ih =>
        rw [hb c List.mem_cons_self]
        exact ih fun d hd => hb d (List.mem_cons_of_mem c hd)
  have hread : typeUpTo? [] (s.toList ++ (blanks ++ rest)) =
      some (s.toList ++ blanks, rest) := by
    rw [typeUpTo?_append hclosed, typeUpTo?_append hblanks, typeUpTo?_of_endsType hrest]
    simp
  have hcut : (s.toList ++ blanks).rdropWhile (· == ' ') = s.toList := by
    have hdrop : blanks.reverse.dropWhile (· == ' ') = [] := by
      rw [List.dropWhile_eq_nil_iff]
      simpa using hb
    rw [List.rdropWhile, List.reverse_append, List.dropWhile_append, hdrop]
    refine List.rdropWhile_eq_self_iff.2 fun hl => ?_
    simpa [List.getLast?_eq_some_getLast hl] using hlast
  have hnil : s.toList ≠ [] := by simpa using hne
  rw [type?, hread, Option.bind_eq_bind, Option.bind_some]
  dsimp only
  rw [hcut, if_neg hnil, String.ofList_toList]

theorem type?_toList (hs : IsType s) : type? s.toList = some (s, []) := by
  have hend : EndsType [] := by decide
  have hread := type?_append hs (List.forall_mem_nil _) hend
  rwa [List.append_nil, List.append_nil] at hread

/-- A type does not begin with a sign that ends types. -/
theorem IsType.after?_eq_none (hs : IsType s) (hc : awaitedBehind? [] c = none)
    (head rest : List Char) : after? (c :: head) (s.toList ++ rest) = none := by
  obtain ⟨hclosed, hne, _⟩ := hs
  cases hcs : s.toList with
  | nil => exact absurd (by simpa using hcs) hne
  | cons d cs =>
      have hcd : c ≠ d := by
        rintro rfl
        rw [hcs, List.foldlM_cons, hc] at hclosed
        cases hclosed
      rw [List.cons_append, after?, if_neg hcd]

/-- A type between two texts is a type, if the second one closes what the first one opens. -/
theorem IsType.between (hs : IsType s) (front back : String)
    (hfront : front.toList.foldlM awaitedBehind? [] = some awaited)
    (hback : back.toList.foldlM awaitedBehind? awaited = some [])
    (hlast : ∃ c ∈ back.toList.getLast?, c ≠ ' ') : IsType (front ++ s ++ back) := by
  obtain ⟨c, hc, hblank⟩ := hlast
  have hne : back ≠ "" := by
    rintro rfl
    cases hc
  have hinner := foldlM_awaitedBehind?_append hs.1 awaited
  rw [List.nil_append] at hinner
  refine ⟨?_, by simp [hne], ?_⟩
  · simp [List.foldlM_append, hfront, hinner, hback]
  · rw [String.toList_append, List.getLast?_append, hc]
    simpa using hblank

theorem IsType.optional (hs : IsType s) : IsType (s ++ "?") :=
  hs.between "" "?" rfl rfl ⟨'?', rfl, by decide⟩

@[simp] theorem endsWith_mark (s : String) : endsWith (s ++ "?") "?" = true := by
  simp [endsWith, beginsWith]

end Types

namespace Quoted

/-- The text up to the closing quote, which stands behind the opening one, and what follows it. -/
def read? (quote : Char) : List Char → Option (List Char × List Char)
  | [] => none
  | [c] => if c = quote then some ([], []) else none
  | c :: d :: cs =>
    if c = quote then some ([], d :: cs)
    else if c = '\\' then (read? quote cs).map fun r => (d :: r.1, r.2)
    else (read? quote (d :: cs)).map fun r => (c :: r.1, r.2)

theorem read?_quote (quote : Char) (cs : List Char) :
    read? quote (quote :: cs) = some ([], cs) := by
  cases cs <;> simp [read?]

theorem read?_backslash {quote : Char} (hq : quote ≠ '\\') (c : Char) (cs : List Char) :
    read? quote ('\\' :: c :: cs) = (read? quote cs).map fun r => (c :: r.1, r.2) := by
  simp [read?, hq.symm]

theorem read?_plain {quote c : Char} (hc : c ≠ quote) (hb : c ≠ '\\') (cs : List Char) :
    read? quote (c :: cs) = (read? quote cs).map fun r => (c :: r.1, r.2) := by
  cases cs <;> simp [read?, hc, hb]

theorem escape_special {quote c : Char} (hc : c = '\\' ∨ c = quote) (cs : List Char) :
    escape quote (c :: cs) = '\\' :: c :: escape quote cs := by
  simp [escape, hc]

theorem escape_plain {quote c : Char} (hb : c ≠ '\\') (hc : c ≠ quote) (cs : List Char) :
    escape quote (c :: cs) = c :: escape quote cs := by
  simp [escape, hb, hc]

/-- A text that was written between quotes is read back, and what follows it is left. -/
theorem read?_escape {quote : Char} (hq : quote ≠ '\\') (cs rest : List Char) :
    read? quote (escape quote cs ++ quote :: rest) = some (cs, rest) := by
  induction cs with
  | nil => exact read?_quote quote rest
  | cons c cs ih =>
      by_cases h : c = '\\' ∨ c = quote
      · rw [escape_special h, List.cons_append, List.cons_append, read?_backslash hq, ih]
        rfl
      · rw [not_or] at h
        rw [escape_plain h.1 h.2, List.cons_append, read?_plain h.2 h.1, ih]
        rfl

/-! ## Two replacements -/

variable {quote : Char}

/-- A sign is replaced wherever it stands. -/
theorem replaceFrom_singleton (old : Char) (new : List Char) (c : Char) (cs : List Char) :
    replaceFrom [old] new 0 (c :: cs) =
      (if c = old then new else [c]) ++ replaceFrom [old] new 0 cs := by
  rw [replaceFrom, List.isEmpty_cons, if_neg (by decide), beginsWith, beginsWith, Bool.and_true]
  by_cases hc : c = old
  · rw [if_pos (beq_iff_eq.2 hc.symm), if_pos hc]
    rfl
  · rw [if_neg fun h => hc (beq_iff_eq.1 h).symm, if_neg hc, List.singleton_append]

/-- The backslashes that stand before quotes come after the others and are not doubled. -/
theorem replaceFrom_eq_escape (hquote : quote ≠ '\\') (cs : List Char) :
    replaceFrom [quote] ['\\', quote] 0 (replaceFrom ['\\'] ['\\', '\\'] 0 cs) =
      escape quote cs := by
  induction cs with
  | nil => rfl
  | cons c cs ih =>
      rw [replaceFrom_singleton]
      by_cases hbackslash : c = '\\'
      · rw [escape_special (.inl hbackslash), if_pos hbackslash, List.cons_append,
          List.singleton_append, replaceFrom_singleton, if_neg hquote.symm, replaceFrom_singleton,
          if_neg hquote.symm, ih, hbackslash]
        rfl
      · rw [if_neg hbackslash, List.singleton_append, replaceFrom_singleton, ih]
        by_cases hc : c = quote
        · rw [escape_special (.inr hc), if_pos hc, hc]
          rfl
        · rw [escape_plain hbackslash hc, if_neg hc, List.singleton_append]

theorem writeBetween_singleton (hquote : quote ≠ '\\') (s : String) :
    writeBetween (String.singleton quote) s = write quote s := by
  rw [← String.toList_inj, writeBetween, write, replace, replace]
  simp only [String.toList_append, String.toList_singleton, String.toList_ofList]
  change [quote] ++ replaceFrom [quote] ['\\', quote] 0
    (replaceFrom ['\\'] ['\\', '\\'] 0 s.toList) ++ [quote] = _
  rw [replaceFrom_eq_escape hquote, List.singleton_append]

/-! ## What stands inside -/

/-- Read from left to right, does an escape wait for its second sign at the end? A backslash begins
one unless it is the second sign itself. -/
def isOpen (cs : List Char) : Bool := cs.foldl (fun waits c => !waits && c == '\\') false

theorem isOpen_backslash (c : Char) (cs : List Char) : isOpen ('\\' :: c :: cs) = isOpen cs := rfl

theorem isOpen_cons {c : Char} (hc : c ≠ '\\') (cs : List Char) : isOpen (c :: cs) = isOpen cs := by
  rw [isOpen, List.foldl_cons, beq_false_of_ne hc]
  rfl

theorem isOpen_escape (cs : List Char) : isOpen (escape quote cs) = false := by
  induction cs with
  | nil => rfl
  | cons c cs ih =>
      by_cases h : c = '\\' ∨ c = quote
      · rw [escape_special h, isOpen_backslash, ih]
      · rw [not_or] at h
        rw [escape_plain h.1 h.2, isOpen_cons h.1, ih]

/-- Each quote is the second sign of an escape. -/
theorem isOpen_of_escape_eq (hquote : quote ≠ '\\') {cs front back : List Char}
    (hcs : escape quote cs = front ++ quote :: back) : isOpen front = true := by
  induction cs generalizing front with
  | nil => exact absurd hcs.symm (List.append_ne_nil_of_right_ne_nil _ (List.cons_ne_nil _ _))
  | cons c cs ih =>
      by_cases h : c = '\\' ∨ c = quote
      · rw [escape_special h] at hcs
        match front, hcs with
        | [], hcs => exact absurd (List.cons.inj hcs).1.symm hquote
        | [_], hcs =>
            rw [← (List.cons.inj hcs).1]
            rfl
        | _ :: _ :: front, hcs =>
            obtain ⟨rfl, hrest⟩ := List.cons.inj hcs
            rw [isOpen_backslash]
            exact ih (List.cons.inj hrest).2
      · rw [not_or] at h
        rw [escape_plain h.1 h.2] at hcs
        cases front with
        | nil => exact absurd (List.cons.inj hcs).1 h.2
        | cons d front =>
            obtain ⟨rfl, hrest⟩ := List.cons.inj hcs
            rw [isOpen_cons h.1]
            exact ih hrest

/-- What is written between two quotes, by two replacements or in one go, is read back as the text.
Inside, each quote is the second sign of an escape, and no escape waits for its second sign. -/
theorem write_inside (hquote : quote ≠ '\\') (s : String) :
    writeBetween (String.singleton quote) s = write quote s ∧
      ∃ inside, (write quote s).toList = quote :: inside ++ [quote] ∧
        unescape inside = s.toList ∧ isOpen inside = false ∧
        ∀ front back, inside = front ++ quote :: back → isOpen front = true :=
  ⟨writeBetween_singleton hquote s, escape quote s.toList, by rw [write, String.toList_ofList],
    unescape_escape quote s.toList, isOpen_escape s.toList,
    fun _ _ h => isOpen_of_escape_eq hquote h⟩

/-- A text with backslashes in front of a quote and at its end. -/
theorem write_inside_backslashes :
    writeBetween "'" "a\\'b\\\\'\\" = "'a\\\\\\'b\\\\\\\\\\'\\\\'" ∧
      ∃ inside, "'a\\\\\\'b\\\\\\\\\\'\\\\'".toList = '\'' :: inside ++ ['\''] ∧
        unescape inside = "a\\'b\\\\'\\".toList ∧ isOpen inside = false ∧
        ∀ front back, inside = front ++ '\'' :: back → isOpen front = true := by
  have hquote : '\'' ≠ '\\' := by decide
  obtain ⟨hwritten, inside, hends, hread, hclosed, hquotes⟩ := write_inside hquote "a\\'b\\\\'\\"
  have hsame : write '\'' "a\\'b\\\\'\\" = "'a\\\\\\'b\\\\\\\\\\'\\\\'" := by decide +kernel
  rw [hsame] at hwritten hends
  exact ⟨hwritten, inside, hends, hread, hclosed, hquotes⟩

end Quoted

end SpecForge.Text
