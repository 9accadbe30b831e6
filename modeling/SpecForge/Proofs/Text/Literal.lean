import SpecForge.Proofs.Name
import SpecForge.Proofs.Text.KotlinLiteral

/-!
# Literals with holes

A reader for the literals of languages in which a backslash begins an escape, and in which a literal
may have holes with the code of an expression in them. What an escape stands for and how far the
code in a hole goes is up to the language; an escape takes up at least as much room as what it
stands for.

What is put into a literal as it stands is read as it stands, up to the closing sign that was put
behind it, exactly if none of its characters means something else in a literal of this kind.
-/

namespace SpecForge

open Text

namespace Literal

/-- A part of what a literal stands for: a character, or a hole with the code in it. -/
inductive Part where
  | char (c : Char)
  | hole (code : List Char)
deriving DecidableEq

/-- The kinds of literals. Those in backticks have holes behind a dollar sign, and go over several
lines. Those in quotes have holes behind a backslash. -/
inductive Kind where
  | apostrophes
  | backticks
  | quotes
deriving DecidableEq

namespace Kind

/-- The sign at the beginning and at the end of a literal. -/
def sign : Kind → Char
  | apostrophes => '\''
  | backticks => '`'
  | quotes => '"'

/-- The sign at the end of the hole that two signs open, if they open one. -/
def mark? : Kind → Char → Char → Option Char
  | apostrophes, _, _ => none
  | backticks, c, d => if c = '$' ∧ d = '\x7b' then some '\x7d' else none
  | quotes, c, d => if c = '\\' ∧ d = '(' then some ')' else none

/-- A hole with the signs around it. In apostrophes there are no holes. -/
def around : Kind → List Char → List Char
  | apostrophes, code => code
  | backticks, code => '$' :: '\x7b' :: (code ++ ['\x7d'])
  | quotes, code => '\\' :: '(' :: (code ++ [')'])

/-- Characters that neither end the code in a hole nor begin anything in it. -/
def isPlainCode : Kind → Char → Bool
  | backticks, c => Name.isWordChar c || c == '(' || c == ')'
  | _, c => Name.isWordChar c

/-- In the holes of the parts, if there are any, there is plain code only. -/
def HasPlainCode (k : Kind) (parts : List Part) : Prop :=
  ∀ code, .hole code ∈ parts → k ≠ .apostrophes ∧ ∀ c ∈ code, k.isPlainCode c = true

/-- A part as it stands in a literal. -/
def write (k : Kind) : Part → List Char
  | .char c => [c]
  | .hole code => k.around code

/-- Parts as they stand in a literal. -/
def writeAll (k : Kind) (parts : List Part) : List Char := parts.flatMap k.write

/-- Parts between the signs of a literal. -/
def between (k : Kind) (parts : List Part) : String :=
  String.ofList (k.sign :: (k.writeAll parts ++ [k.sign]))

@[simp] theorem writeAll_nil (k : Kind) : k.writeAll [] = [] := rfl

@[simp] theorem writeAll_char (k : Kind) (c : Char) (parts : List Part) :
    k.writeAll (.char c :: parts) = c :: k.writeAll parts := rfl

@[simp] theorem writeAll_hole (k : Kind) (code : List Char) (parts : List Part) :
    k.writeAll (.hole code :: parts) = k.around code ++ k.writeAll parts := rfl

@[simp] theorem writeAll_append (k : Kind) (parts more : List Part) :
    k.writeAll (parts ++ more) = k.writeAll parts ++ k.writeAll more := List.flatMap_append

@[simp] theorem writeAll_chars (k : Kind) (cs : List Char) : k.writeAll (cs.map .char) = cs := by
  induction cs with
  | nil => rfl
  | cons c cs ih => rw [List.map_cons, writeAll_char, ih]

end Kind

/-- The rules of a language for what stands in its literals: what an escape stands for, how far the
code in a hole goes, and which characters may not stand in a literal of one line. -/
structure Language where
  escape? : List Char → Option (List Char × List Char)
  code? : Kind → Char → List Char → Option (List Char × List Char)
  breaks : Char → Bool
  length_escape : ∀ {cs meant rest}, escape? cs = some (meant, rest) →
    meant.length + rest.length ≤ cs.length
  length_code : ∀ {k mark cs code rest}, code? k mark cs = some (code, rest) →
    code.length + rest.length < cs.length
  code_plain : ∀ {k code} mark rest, (∀ c ∈ code, k.isPlainCode c = true) →
    k.isPlainCode mark = false → code? k mark (code ++ mark :: rest) = some (code, rest)
  lineFeed : breaks '\n' = true
  carriageReturn : breaks '\r' = true

namespace Language

variable (lang : Language) (k : Kind)

/-- Characters that do not stand for themselves. In backticks a carriage return is read as a line
feed. -/
def alters (c : Char) : Bool :=
  match k with
  | .backticks => c == '\r'
  | _ => lang.breaks c

/-- The character that a literal goes on with, where neither a hole nor an escape begins. -/
def plain? (c : Char) (cs : List Char) : Option (Char × List Char) :=
  match k with
  | .backticks => if c = '\r' then some ('\n', (after? ['\n'] cs).getD cs) else some (c, cs)
  | _ => if lang.breaks c then none else some (c, cs)

/-- The next part of a literal, or the characters that an escape stands for, and what follows. -/
def next? (c : Char) (cs : List Char) : Option (List Part × List Char) :=
  match cs.head?.bind (k.mark? c) with
  | some mark => (lang.code? k mark cs.tail).map fun r => ([.hole r.1], r.2)
  | none =>
    if c = '\\' then (lang.escape? cs).map fun r => (r.1.map .char, r.2)
    else (lang.plain? k c cs).map fun r => ([.char r.1], r.2)

variable {lang k} {c d : Char} {cs rest code : List Char} {parts : List Part}

theorem exists_of_mark? {mark : Char} (h : cs.head?.bind (k.mark? c) = some mark) :
    ∃ d tail, cs = d :: tail ∧ ∀ code, k.around code = c :: d :: (code ++ [mark]) := by
  cases cs with
  | nil => cases h
  | cons d tail =>
      refine ⟨d, tail, rfl, fun code => ?_⟩
      cases k with
      | apostrophes => cases h
      | backticks =>
          obtain ⟨⟨rfl, rfl⟩, hmark⟩ := Option.ite_none_right_eq_some.1 h
          cases hmark
          rfl
      | quotes =>
          obtain ⟨⟨rfl, rfl⟩, hmark⟩ := Option.ite_none_right_eq_some.1 h
          cases hmark
          rfl

theorem plain?_of_not_alters (h : lang.alters k c = false) (cs : List Char) :
    lang.plain? k c cs = some (c, cs) := by
  cases k with
  | backticks => exact if_neg (by simpa [alters] using h)
  | apostrophes => exact if_neg (by simpa [alters] using h)
  | quotes => exact if_neg (by simpa [alters] using h)

/-- A character that is read as itself is not an altered one. -/
theorem not_alters_of_plain? (h : lang.plain? k c cs = some (c, rest)) :
    lang.alters k c = false ∧ rest = cs := by
  cases k with
  | backticks =>
      rw [plain?] at h
      split at h
      · rename_i hc
        cases hc
        cases h
      · rename_i hc
        cases h
        exact ⟨by simpa [alters] using hc, rfl⟩
  | apostrophes =>
      obtain ⟨hc, h⟩ := Option.ite_none_left_eq_some.1 h
      cases h
      exact ⟨by simpa [alters] using hc, rfl⟩
  | quotes =>
      obtain ⟨hc, h⟩ := Option.ite_none_left_eq_some.1 h
      cases h
      exact ⟨by simpa [alters] using hc, rfl⟩

theorem length_after_break (cs : List Char) : ((after? ['\n'] cs).getD cs).length ≤ cs.length := by
  cases hbreak : after? ['\n'] cs with
  | none => exact Nat.le_refl _
  | some tail =>
      rw [after?_eq_some_iff.1 hbreak]
      simp

theorem length_plain (h : lang.plain? k c cs = some (d, rest)) : rest.length ≤ cs.length := by
  unfold plain? at h
  split at h
  · split at h
    · cases h
      exact length_after_break cs
    · cases h
      exact Nat.le_refl _
  · obtain ⟨_, h⟩ := Option.ite_none_left_eq_some.1 h
    cases h
    exact Nat.le_refl _

theorem length_chars_of_escape {meant : List Char} (h : lang.escape? cs = some (meant, rest)) :
    (k.writeAll (meant.map .char)).length + rest.length ≤ cs.length := by
  rw [Kind.writeAll_chars]
  exact lang.length_escape h

/-- What one step reads takes up as much room as it would when it is written, or more. -/
theorem length_next (h : lang.next? k c cs = some (parts, rest)) :
    (k.writeAll parts).length + rest.length ≤ cs.length + 1 ∧ rest.length ≤ cs.length := by
  unfold next? at h
  split at h
  · rename_i mark hmark
    obtain ⟨d, tail, rfl, haround⟩ := exists_of_mark? hmark
    obtain ⟨⟨code, _⟩, hcode, heq⟩ := Option.map_eq_some_iff.1 h
    cases heq
    have hlength := lang.length_code hcode
    simp only [Kind.writeAll_hole, Kind.writeAll_nil, haround, List.append_nil, List.length_cons,
      List.length_append, List.length_nil, List.tail_cons] at hlength ⊢
    omega
  · split at h
    · obtain ⟨⟨meant, _⟩, hmeant, heq⟩ := Option.map_eq_some_iff.1 h
      cases heq
      have hlength := length_chars_of_escape (k := k) hmeant
      dsimp only
      omega
    · obtain ⟨⟨d, _⟩, hplain, heq⟩ := Option.map_eq_some_iff.1 h
      cases heq
      have hlength := length_plain hplain
      simp only [Kind.writeAll_char, Kind.writeAll_nil, List.length_singleton]
      omega

/-- What stands up to the closing sign, and what follows the sign. -/
def content? (lang : Language) (k : Kind) : List Char → Option (List Part × List Char)
  | [] => none
  | c :: cs =>
    if c = k.sign then some ([], cs)
    else match _h : lang.next? k c cs with
      | some (parts, rest) => (content? lang k rest).map fun r => (parts ++ r.1, r.2)
      | none => none
termination_by cs => cs.length
decreasing_by
  have := (length_next _h).2
  rw [List.length_cons]
  omega

/-- What a literal at the beginning stands for, and what follows it. Three quotes begin a literal of
another kind. -/
def literal? (lang : Language) (k : Kind) (cs : List Char) : Option (List Part × List Char) :=
  match k with
  | .quotes =>
    if (after? ['"', '"', '"'] cs).isSome then none
    else (after? ['"'] cs).bind (lang.content? .quotes)
  | _ => (after? [k.sign] cs).bind (lang.content? k)

theorem content?_sign (cs : List Char) : lang.content? k (k.sign :: cs) = some ([], cs) := by
  rw [content?, if_pos rfl]

theorem content?_cons (hc : c ≠ k.sign) (cs : List Char) : lang.content? k (c :: cs) =
    (lang.next? k c cs).bind fun r => (lang.content? k r.2).map fun s => (r.1 ++ s.1, s.2) := by
  rw [content?, if_neg hc]
  split
  · rename_i h
    rw [h]
    rfl
  · rename_i h
    rw [h]
    rfl

/-- What is read takes up as much room as it would when it is written, or more. -/
theorem length_content (h : lang.content? k cs = some (parts, rest)) :
    (k.writeAll parts).length + rest.length < cs.length := by
  induction cs using content?.induct lang k generalizing parts with
  | case1 => simp [content?] at h
  | case2 cs =>
      rw [content?_sign] at h
      cases h
      simp
  | case3 c cs hc first tail hfirst ih =>
      rw [content?_cons hc, hfirst] at h
      obtain ⟨⟨others, _⟩, hothers, heq⟩ := Option.map_eq_some_iff.1 h
      cases heq
      have hnext := length_next hfirst
      have hcontent := ih hothers
      rw [Kind.writeAll_append, List.length_append, List.length_cons]
      dsimp only at hcontent ⊢
      omega
  | case4 c cs hc hnone =>
      rw [content?_cons hc, hnone] at h
      cases h

/-! ### What was put there is read -/

/-- No character of the parts means something else than itself: neither alone, nor together with its
neighbour. -/
structure Stays (lang : Language) (k : Kind) (parts : List Part) : Prop where
  chars : ∀ c, .char c ∈ parts → c ≠ k.sign ∧ c ≠ '\\' ∧ lang.alters k c = false
  pairs : ∀ c d, [.char c, .char d] <:+: parts → k.mark? c d = none

/-- The sign that the first of the parts opens a hole with, if a character stands before it. -/
def opens? (k : Kind) (c : Char) : List Part → Option Char
  | .char d :: _ => k.mark? c d
  | _ => none

theorem stays_nil : lang.Stays k [] where
  chars _ h := absurd h List.not_mem_nil
  pairs _ _ h := absurd (List.infix_nil.1 h) (List.cons_ne_nil _ _)

theorem stays_hole : lang.Stays k (.hole code :: parts) ↔ lang.Stays k parts := by
  constructor
  · rintro ⟨hchars, hpairs⟩
    exact ⟨fun c hc => hchars c (List.mem_cons_of_mem _ hc),
      fun c d hd => hpairs c d (List.infix_cons hd)⟩
  · rintro ⟨hchars, hpairs⟩
    refine ⟨fun c hc => hchars c (by simpa using hc), fun c d hd => ?_⟩
    rcases List.infix_cons_iff.1 hd with hprefix | hd
    · simp at hprefix
    · exact hpairs c d hd

theorem stays_char : lang.Stays k (.char c :: parts) ↔
    (c ≠ k.sign ∧ c ≠ '\\' ∧ lang.alters k c = false) ∧ opens? k c parts = none ∧
      lang.Stays k parts := by
  constructor
  · rintro ⟨hchars, hpairs⟩
    refine ⟨hchars c List.mem_cons_self, ?_, fun d hd => hchars d (List.mem_cons_of_mem _ hd),
      fun a b hd => hpairs a b (List.infix_cons hd)⟩
    unfold opens?
    split
    · rename_i d rest
      exact hpairs c d (List.prefix_append [.char c, .char d] rest).isInfix
    · rfl
  · rintro ⟨hc, hopens, hchars, hpairs⟩
    refine ⟨fun d hd => ?_, fun a b hd => ?_⟩
    · rcases List.mem_cons.1 hd with heq | hd
      · cases heq
        exact hc
      · exact hchars d hd
    · rcases List.infix_cons_iff.1 hd with hprefix | hd
      · obtain ⟨heq, rest, rfl⟩ := List.cons_prefix_cons.1 hprefix
        cases heq
        exact hopens
      · exact hpairs a b hd

/-- Neither a hole nor the closing sign makes the character before it open a hole. -/
theorem mark?_head (k : Kind) (c : Char) (parts : List Part) (rest : List Char) :
    (k.writeAll parts ++ k.sign :: rest).head?.bind (k.mark? c) = opens? k c parts := by
  cases parts with
  | nil => cases k <;> simp [opens?, Kind.mark?, Kind.sign]
  | cons part parts =>
      cases part with
      | char d => rfl
      | hole code => cases k <;> simp [opens?, Kind.mark?, Kind.around]

theorem next?_char (parts : List Part) (rest : List Char)
    (hopens : opens? k c parts = none) : lang.next? k c (k.writeAll parts ++ k.sign :: rest) =
      if c = '\\' then
        (lang.escape? (k.writeAll parts ++ k.sign :: rest)).map fun r => (r.1.map .char, r.2)
      else
        (lang.plain? k c (k.writeAll parts ++ k.sign :: rest)).map
          fun r => ([.char r.1], r.2) := by
  rw [next?, mark?_head, hopens]

/-- An escape stands for less than what it takes up, so with one at the beginning nothing is read
that would take up all of the text when it is written. -/
theorem ne_of_escape {meant tail : List Char} {found : List Part}
    (hescape : lang.escape? cs = some (meant, tail))
    (hcontent : lang.content? k tail = some (found, rest))
    (hcs : cs = k.writeAll parts ++ k.sign :: rest) :
    meant.map .char ++ found ≠ .char c :: parts := by
  intro heq
  have hescaped := length_chars_of_escape (k := k) hescape
  have hfound := length_content hcontent
  have hlength := congrArg (fun parts => (k.writeAll parts).length) heq
  simp only [Kind.writeAll_append, Kind.writeAll_char, List.length_append, List.length_cons,
    hcs] at hescaped hlength
  omega

theorem stays_of_content?_char
    (h : lang.content? k (c :: (k.writeAll parts ++ k.sign :: rest)) =
      some (.char c :: parts, rest)) :
    (c ≠ k.sign ∧ c ≠ '\\' ∧ lang.alters k c = false) ∧ opens? k c parts = none ∧
      lang.content? k (k.writeAll parts ++ k.sign :: rest) = some (parts, rest) := by
  have hc : c ≠ k.sign := by
    rintro rfl
    rw [content?_sign] at h
    cases h
  rw [content?_cons hc] at h
  obtain ⟨⟨first, tail⟩, hfirst, h⟩ := Option.bind_eq_some_iff.1 h
  obtain ⟨⟨others, _⟩, hothers, heq⟩ := Option.map_eq_some_iff.1 h
  dsimp only at hothers heq
  obtain ⟨hparts, rfl⟩ := Prod.mk.inj heq
  rw [next?, mark?_head] at hfirst
  cases hopens : opens? k c parts with
  | some mark =>
      rw [hopens] at hfirst
      obtain ⟨r, _, hr⟩ := Option.map_eq_some_iff.1 hfirst
      cases hr
      cases hparts
  | none =>
      rw [hopens] at hfirst
      dsimp only at hfirst
      split at hfirst
      · obtain ⟨⟨meant, _⟩, hmeant, hr⟩ := Option.map_eq_some_iff.1 hfirst
        cases hr
        exact absurd hparts (ne_of_escape hmeant hothers rfl)
      · rename_i hescape
        obtain ⟨⟨d, _⟩, hplain, hr⟩ := Option.map_eq_some_iff.1 hfirst
        cases hr
        cases hparts
        obtain ⟨halters, rfl⟩ := not_alters_of_plain? hplain
        exact ⟨⟨hc, hescape, halters⟩, rfl, hothers⟩

theorem exists_around (hk : k ≠ .apostrophes) : ∃ c d mark, c ≠ k.sign ∧
    k.mark? c d = some mark ∧ k.isPlainCode mark = false ∧
      ∀ code, k.around code = c :: d :: (code ++ [mark]) := by
  cases k with
  | apostrophes => exact absurd rfl hk
  | backticks => exact ⟨'$', '\x7b', '\x7d', by decide, by decide, by decide, fun _ => rfl⟩
  | quotes => exact ⟨'\\', '(', ')', by decide, by decide, by decide, fun _ => rfl⟩

theorem content?_hole (hk : k ≠ .apostrophes) (hcode : ∀ c ∈ code, k.isPlainCode c = true)
    (cs : List Char) : lang.content? k (k.around code ++ cs) =
      (lang.content? k cs).map fun r => (.hole code :: r.1, r.2) := by
  obtain ⟨c, d, mark, hc, hmark, hplain, haround⟩ := exists_around hk
  have hnext : lang.next? k c (d :: (code ++ mark :: cs)) = some ([.hole code], cs) := by
    rw [next?, List.head?_cons, Option.bind_some, hmark]
    dsimp only
    rw [List.tail_cons, lang.code_plain mark cs hcode hplain, Option.map_some]
  rw [haround, List.cons_append, List.cons_append, List.append_assoc, List.singleton_append,
    content?_cons hc, hnext]
  rfl

/-- What is put into a literal is read as it was put there, up to the closing sign behind it,
exactly if it stays what it is. -/
theorem content?_writeAll_iff (hplain : k.HasPlainCode parts) (rest : List Char) :
    lang.content? k (k.writeAll parts ++ k.sign :: rest) = some (parts, rest) ↔
      lang.Stays k parts := by
  induction parts with
  | nil => exact iff_of_true (content?_sign rest) stays_nil
  | cons part parts ih =>
      replace ih := ih fun code hc => hplain code (List.mem_cons_of_mem _ hc)
      cases part with
      | hole code =>
          obtain ⟨hk, hcode⟩ := hplain code List.mem_cons_self
          rw [stays_hole, ← ih, Kind.writeAll_hole, List.append_assoc, content?_hole hk hcode]
          constructor
          · intro h
            obtain ⟨⟨others, _⟩, hothers, heq⟩ := Option.map_eq_some_iff.1 h
            cases heq
            exact hothers
          · intro h
            rw [h]
            rfl
      | char c =>
          rw [stays_char, Kind.writeAll_char, List.cons_append, ← ih]
          constructor
          · exact stays_of_content?_char
          · rintro ⟨⟨hc, hescape, halters⟩, hopens, hread⟩
            rw [content?_cons hc, next?_char parts rest hopens, if_neg hescape,
              plain?_of_not_alters halters, Option.map_some, Option.bind_some, hread]
            rfl

theorem toList_between_append (k : Kind) (parts : List Part) (rest : List Char) :
    (k.between parts).toList ++ rest = k.sign :: (k.writeAll parts ++ k.sign :: rest) := by
  simp [Kind.between]

/-- What stays what it is does not begin with quotes. -/
theorem after?_three_quotes (h : lang.Stays .quotes parts) (hrest : rest.head? ≠ some '"') :
    after? ['"', '"', '"'] ('"' :: (Kind.quotes.writeAll parts ++ '"' :: rest)) = none := by
  rw [after?, if_pos rfl]
  cases parts with
  | nil =>
      cases rest with
      | nil => rfl
      | cons d rest =>
          have hd : '"' ≠ d := fun heq => hrest (by rw [← heq, List.head?_cons])
          simp [after?, hd]
  | cons part parts =>
      cases part with
      | hole code => rfl
      | char c =>
          have hc : '"' ≠ c := (h.chars c List.mem_cons_self).1.symm
          rw [Kind.writeAll_char, List.cons_append, after?, if_neg hc]

/-- What a literal with something put between its signs is read as. -/
theorem stays_of_literal? (hplain : k.HasPlainCode parts)
    (h : lang.literal? k ((k.between parts).toList ++ rest) = some (parts, rest)) :
    lang.Stays k parts := by
  refine (content?_writeAll_iff hplain rest).1 ?_
  rw [toList_between_append] at h
  cases k with
  | apostrophes => exact h
  | backticks => exact h
  | quotes => exact (Option.ite_none_left_eq_some.1 h).2

theorem literal?_between (hplain : k.HasPlainCode parts) (hrest : rest.head? ≠ some k.sign)
    (h : lang.Stays k parts) :
    lang.literal? k ((k.between parts).toList ++ rest) = some (parts, rest) := by
  have hcontent := (content?_writeAll_iff hplain rest).2 h
  rw [toList_between_append]
  cases k with
  | apostrophes => exact hcontent
  | backticks => exact hcontent
  | quotes =>
      rw [literal?, Kind.sign, after?_three_quotes h hrest]
      exact hcontent

/-! ### What stays in each kind of literal -/

theorem stays_apostrophes : lang.Stays .apostrophes (cs.map .char) ↔
    ∀ c ∈ cs, c ≠ '\'' ∧ c ≠ '\\' ∧ lang.breaks c = false := by
  constructor
  · intro h c hc
    exact h.chars c (List.mem_map_of_mem hc)
  · intro h
    refine ⟨fun c hc => h c ?_, fun _ _ _ => rfl⟩
    obtain ⟨d, hd, heq⟩ := List.mem_map.1 hc
    cases heq
    exact hd

theorem stays_backticks : lang.Stays .backticks parts ↔
    (∀ c, .char c ∈ parts → c ≠ '`' ∧ c ≠ '\\' ∧ c ≠ '\r') ∧
      ¬ [.char '$', .char '\x7b'] <:+: parts := by
  constructor
  · rintro ⟨hchars, hpairs⟩
    refine ⟨fun c hc => ?_, fun hpair => ?_⟩
    · obtain ⟨hsign, hescape, halters⟩ := hchars c hc
      exact ⟨hsign, hescape, by simpa [alters] using halters⟩
    · have hnone := hpairs _ _ hpair
      simp [Kind.mark?] at hnone
  · rintro ⟨hchars, hpair⟩
    refine ⟨fun c hc => ?_, fun c d hd => if_neg ?_⟩
    · obtain ⟨hsign, hescape, hreturn⟩ := hchars c hc
      exact ⟨hsign, hescape, by simpa [alters] using hreturn⟩
    · rintro ⟨rfl, rfl⟩
      exact hpair hd

/-- Without a backslash there is no hole that was not put there as one. -/
theorem stays_quotes : lang.Stays .quotes parts ↔
    ∀ c, .char c ∈ parts → c ≠ '"' ∧ c ≠ '\\' ∧ lang.breaks c = false := by
  constructor
  · exact fun h => h.chars
  · intro h
    refine ⟨h, fun c d hd => if_neg ?_⟩
    rintro ⟨rfl, rfl⟩
    exact (h '\\' (hd.subset List.mem_cons_self)).2.1 rfl

/-- Parts stand between the signs of a literal in a line of the code, behind some other text. There
the literal is read as these parts, and as ending with its closing sign, exactly if they stay what
they are. -/
def StandsIn (lang : Language) (k : Kind) (lines : Lines) (front : String) (parts : List Part) :
    Prop :=
  ∃ back, front ++ k.between parts ++ back ∈ lines ∧
    (lang.literal? k (k.between parts ++ back).toList = some (parts, back.toList) ↔
      lang.Stays k parts)

theorem standsIn_of_mem {lines : Lines} {front line : String} (back : String) (hmem : line ∈ lines)
    (hline : line = front ++ k.between parts ++ back) (hplain : k.HasPlainCode parts)
    (hback : back.toList.head? ≠ some k.sign) : lang.StandsIn k lines front parts := by
  refine ⟨back, hline ▸ hmem, ?_⟩
  rw [String.toList_append]
  exact ⟨stays_of_literal? hplain, literal?_between hplain hback⟩

end Language

/-! ### Two languages -/

/-- Code up to a closing mark, brackets inside it being counted. -/
def codeUpTo? (bracket mark : Char) : Nat → List Char → Option (List Char × List Char)
  | _, [] => none
  | depth, c :: cs =>
    if c = mark then
      match depth with
      | 0 => some ([], cs)
      | depth + 1 => (codeUpTo? bracket mark depth cs).map fun r => (c :: r.1, r.2)
    else
      (codeUpTo? bracket mark (if c = bracket then depth + 1 else depth) cs).map
        fun r => (c :: r.1, r.2)

theorem length_codeUpTo {bracket mark : Char} {depth : Nat} {cs code rest : List Char}
    (h : codeUpTo? bracket mark depth cs = some (code, rest)) :
    code.length + rest.length < cs.length := by
  induction cs generalizing depth code with
  | nil => cases h
  | cons c cs ih =>
      have hmore : ∀ {depth}, (codeUpTo? bracket mark depth cs).map (fun r => (c :: r.1, r.2)) =
          some (code, rest) → code.length + rest.length < (c :: cs).length := by
        intro depth h
        obtain ⟨⟨others, _⟩, hothers, heq⟩ := Option.map_eq_some_iff.1 h
        cases heq
        have hlength := ih hothers
        simp only [List.length_cons] at hlength ⊢
        omega
      unfold codeUpTo? at h
      split at h
      · cases depth with
        | zero =>
            cases h
            simp
        | succ depth => exact hmore h
      · exact hmore h

/-- The bracket that makes the code in a hole go on behind a closing mark. -/
def Kind.bracket : Kind → Char
  | backticks => '\x7b'
  | _ => '('

theorem codeUpTo?_plain {k : Kind} {code : List Char} (mark : Char) (rest : List Char)
    (hcode : ∀ c ∈ code, k.isPlainCode c = true) (hmark : k.isPlainCode mark = false) :
    codeUpTo? k.bracket mark 0 (code ++ mark :: rest) = some (code, rest) := by
  induction code with
  | nil => simp [codeUpTo?]
  | cons c code ih =>
      have hc := hcode c List.mem_cons_self
      have hne : c ≠ mark := by
        rintro rfl
        rw [hmark] at hc
        cases hc
      have hbracket : c ≠ k.bracket := by
        rintro rfl
        cases k <;> revert hc <;> decide
      rw [List.cons_append, codeUpTo?, if_neg hne, if_neg hbracket,
        ih fun d hd => hcode d (List.mem_cons_of_mem _ hd)]
      rfl

/-- The character with a number of one hexadecimal digit and some more, and what follows these. -/
def numbered? (more : Nat) (cs : List Char) : Option (List Char × List Char) :=
  if more < cs.length then
    (Kotlin.numbered? (cs.take (more + 1))).map fun c => ([c], cs.drop (more + 1))
  else none

/-- The character with a number that stands in braces, and what follows them. -/
def braced? (fits : List Char → Bool) (cs : List Char) : Option (List Char × List Char) := do
  let inner ← after? ['\x7b'] cs
  let rest ← after? ['\x7d'] (inner.dropWhile (· != '\x7d'))
  let digits := inner.takeWhile (· != '\x7d')
  if !digits.isEmpty && fits digits then (Kotlin.numbered? digits).map fun c => ([c], rest)
  else none

theorem length_numbered {more : Nat} {cs meant rest : List Char}
    (h : numbered? more cs = some (meant, rest)) : meant.length + rest.length ≤ cs.length := by
  obtain ⟨hmore, h⟩ := Option.ite_none_right_eq_some.1 h
  obtain ⟨c, _, heq⟩ := Option.map_eq_some_iff.1 h
  cases heq
  simp only [List.length_singleton, List.length_drop]
  omega

theorem length_braced {fits : List Char → Bool} {cs meant rest : List Char}
    (h : braced? fits cs = some (meant, rest)) : meant.length + rest.length ≤ cs.length := by
  obtain ⟨inner, hinner, h⟩ := Option.bind_eq_some_iff.1 h
  obtain ⟨behind, hbehind, h⟩ := Option.bind_eq_some_iff.1 h
  obtain ⟨_, h⟩ := Option.ite_none_right_eq_some.1 h
  obtain ⟨c, _, heq⟩ := Option.map_eq_some_iff.1 h
  cases heq
  have hdrop := (List.dropWhile_suffix (l := inner) (· != '\x7d')).length_le
  rw [after?_eq_some_iff.1 hbehind] at hdrop
  rw [after?_eq_some_iff.1 hinner]
  simp only [List.length_append, List.length_singleton] at hdrop ⊢
  omega

namespace TypeScript

/-- The characters that letters behind a backslash stand for; all others stand for themselves. -/
def letters : List (Char × Char) :=
  [('b', '\x08'), ('t', '\t'), ('n', '\n'), ('v', '\x0b'), ('f', '\x0c'), ('r', '\r')]

/-- Behind a backslash a line break stands for nothing, and a digit but a single zero is none. -/
def escape? : List Char → Option (List Char × List Char)
  | [] => none
  | c :: cs =>
    if c = '\r' then some ([], (after? ['\n'] cs).getD cs)
    else if c == '\n' || c == '\u2028' || c == '\u2029' then some ([], cs)
    else if c = 'x' then numbered? 1 cs
    else if c = 'u' then (braced? (fun _ => true) cs).or (numbered? 3 cs)
    else if c = '0' && !cs.head?.any isAsciiDigit then some (['\x00'], cs)
    else if isAsciiDigit c then none
    else some ([(letters.lookup c).getD c], cs)

theorem length_escape {cs meant rest : List Char} (h : escape? cs = some (meant, rest)) :
    meant.length + rest.length ≤ cs.length := by
  cases cs with
  | nil => cases h
  | cons c cs =>
      have hbreak := Language.length_after_break cs
      have hnumber : ∀ {more}, numbered? more cs = some (meant, rest) →
          meant.length + rest.length ≤ cs.length := length_numbered
      rw [List.length_cons]
      rw [escape?] at h
      repeat' split at h
      · cases h
        exact Nat.le_succ_of_le (by simpa using hbreak)
      · cases h
        simp
      · exact Nat.le_succ_of_le (hnumber h)
      · rcases Option.or_eq_some_iff.1 h with h | ⟨_, h⟩
        · exact Nat.le_succ_of_le (length_braced h)
        · exact Nat.le_succ_of_le (hnumber h)
      · cases h
        simp [Nat.add_comm]
      · cases h
      · cases h
        simp [Nat.add_comm]

/-- The rules of TypeScript. -/
def language : Language where
  escape? := escape?
  code? k mark := codeUpTo? k.bracket mark 0
  breaks c := c == '\n' || c == '\r'
  length_escape := length_escape
  length_code := length_codeUpTo
  code_plain := codeUpTo?_plain
  lineFeed := by decide
  carriageReturn := by decide

example : language.literal? .backticks "`/it\\'s/$\x7bf(id)\x7d`;".toList =
    some ("/it's/".toList.map .char ++ [.hole "f(id)".toList], [';']) := by
  decide +kernel

end TypeScript

namespace Swift

/-- The characters that letters and signs behind a backslash stand for. -/
def letters : List (Char × Char) :=
  [('0', '\x00'), ('\\', '\\'), ('t', '\t'), ('n', '\n'), ('r', '\r'), ('"', '"'), ('\'', '\'')]

/-- Behind a backslash stands a letter or a sign, or a number of at most eight digits. -/
def escape? : List Char → Option (List Char × List Char)
  | [] => none
  | c :: cs =>
    if c = 'u' then braced? (·.length ≤ 8) cs else (letters.lookup c).map fun d => ([d], cs)

theorem length_escape {cs meant rest : List Char} (h : escape? cs = some (meant, rest)) :
    meant.length + rest.length ≤ cs.length := by
  cases cs with
  | nil => cases h
  | cons c cs =>
      rw [List.length_cons]
      rw [escape?] at h
      split at h
      · exact Nat.le_succ_of_le (length_braced h)
      · obtain ⟨d, _, heq⟩ := Option.map_eq_some_iff.1 h
        cases heq
        simp [Nat.add_comm]

/-- The rules of Swift. -/
def language : Language where
  escape? := escape?
  code? k mark := codeUpTo? k.bracket mark 0
  breaks c := c == '\n' || c == '\r'
  length_escape := length_escape
  length_code := length_codeUpTo
  code_plain := codeUpTo?_plain
  lineFeed := by decide
  carriageReturn := by decide

example : language.literal? .quotes "\"/a\\u\x7b62\x7d\\(id)\")".toList =
    some ("/ab".toList.map .char ++ [.hole "id".toList], [')']) := by
  decide +kernel

end Swift

end Literal

end SpecForge
