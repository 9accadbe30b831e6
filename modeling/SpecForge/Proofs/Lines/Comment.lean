import SpecForge.Proofs.Lines
import SpecForge.Proofs.Text.Split
import SpecForge.Proofs.Text.Read

/-!
# Where a comment ends

A documentation comment stands on one line, for the words of its text are put behind each other with
one space between them. A comment behind slashes ends with its line. One that is opened by a mark
ends with the next closing mark, or, in languages where comments are nested, with the mark that
closes the first opening one. The marks in a comment are those of its text: a space neither makes
nor breaks one.
-/

namespace SpecForge

namespace Text

/-- There is no character of the class in a word. -/
theorem not_of_mem_wordsFrom {p : Char → Bool} {current cs word : List Char}
    (hcurrent : ∀ c ∈ current, p c = false) (hword : word ∈ wordsFrom p current cs) :
    ∀ c ∈ word, p c = false := by
  induction cs generalizing current with
  | nil =>
      rw [wordsFrom] at hword
      split at hword
      · cases hword
      · rw [List.mem_singleton.1 hword]
        exact fun c hc => hcurrent c (List.mem_reverse.1 hc)
  | cons c cs ih =>
      have hnil : ∀ c ∈ ([] : List Char), p c = false := fun _ h => absurd h List.not_mem_nil
      rw [wordsFrom] at hword
      split at hword
      · split at hword
        · exact ih hnil hword
        · rcases List.mem_cons.1 hword with rfl | hword
          · exact fun c hc => hcurrent c (List.mem_reverse.1 hc)
          · exact ih hnil hword
      · rename_i hc
        exact ih (List.forall_mem_cons.2 ⟨Bool.eq_false_iff.2 hc, hcurrent⟩) hword

theorem toList_oneSpaced (s : String) :
    (oneSpaced s).toList = [' '].intercalate (wordsFrom isBlank [] s.toList) := by
  rw [oneSpaced, String.toList_intercalate, words, List.map_map]
  congr 1
  exact (List.map_congr_left fun word _ => String.toList_ofList).trans (List.map_id _)

theorem eq_or_mem_of_mem_intercalate {α : Type} {sep a : α} {words : List (List α)}
    (h : a ∈ [sep].intercalate words) : a = sep ∨ ∃ word ∈ words, a ∈ word := by
  induction words with
  | nil => cases h
  | cons word words ih =>
      cases words with
      | nil =>
          rw [List.intercalate_singleton] at h
          exact .inr ⟨word, List.mem_cons_self, h⟩
      | cons next words =>
          rw [List.intercalate_cons_cons, List.mem_append, List.mem_append,
            List.mem_singleton] at h
          rcases h with (h | h) | h
          · exact .inr ⟨word, List.mem_cons_self, h⟩
          · exact .inl h
          · obtain h | ⟨other, ho, ha⟩ := ih h
            · exact .inl h
            · exact .inr ⟨other, List.mem_cons_of_mem _ ho, ha⟩

/-- The only blanks that are left between words are spaces. -/
theorem eq_space_of_mem_oneSpaced {s : String} {c : Char} (hc : c ∈ (oneSpaced s).toList)
    (hblank : isBlank c = true) : c = ' ' := by
  rw [toList_oneSpaced] at hc
  obtain h | ⟨word, hword, hc⟩ := eq_or_mem_of_mem_intercalate hc
  · exact h
  · rw [not_of_mem_wordsFrom (fun _ h => absurd h List.not_mem_nil) hword c hc] at hblank
    cases hblank

/-- What is read on both sides of a blank for itself is the same with one space between the words.
-/
theorem eq_oneSpaced {β : Type} {f : List Char → List β} (hnil : f [] = [])
    (hblank : ∀ u b v, isBlank b = true → f (u ++ b :: v) = f u ++ f v) (s : String) :
    f (oneSpaced s).toList = f s.toList := by
  have hwords : ∀ current cs, f ([' '].intercalate (wordsFrom isBlank current cs)) =
      f (current.reverse ++ cs) := by
    intro current cs
    induction cs generalizing current with
    | nil =>
        rw [wordsFrom, List.append_nil]
        split
        · rename_i hempty
          rw [List.isEmpty_iff.1 hempty]
          rfl
        · rw [List.intercalate_singleton]
    | cons c cs ih =>
        have hrest := ih []
        rw [List.reverse_nil, List.nil_append] at hrest
        rw [wordsFrom]
        split
        · rename_i hc
          rw [hblank _ _ _ hc, ← hrest]
          split
          · rename_i hempty
            rw [List.isEmpty_iff.1 hempty, List.reverse_nil, hnil, List.nil_append]
          · cases wordsFrom isBlank [] cs with
            | nil => rw [List.intercalate_singleton, List.intercalate_nil, hnil, List.append_nil]
            | cons word words =>
                rw [List.intercalate_cons_cons, List.append_assoc]
                exact hblank _ ' ' _ (by decide)
        · rw [ih (c :: current), List.reverse_cons, List.append_assoc]
          rfl
  rw [toList_oneSpaced]
  exact hwords [] s.toList

end Text

namespace Lines

open Text

/-- What opens or closes a comment inside a comment. -/
inductive Mark where
  | opening
  | closing
deriving DecidableEq

/-- How many comments are open inside the outermost one behind a mark, unless the mark closes that
one. -/
def Mark.depth? : Nat → Mark → Option Nat
  | depth, opening => some (depth + 1)
  | 0, closing => none
  | depth + 1, closing => some depth

/-- The mark that two characters make. Only where comments are nested does one open another one. -/
def mark? (nested : Bool) (c d : Char) : Option Mark :=
  if c = '*' ∧ d = '/' then some .closing
  else if nested = true ∧ c = '/' ∧ d = '*' then some .opening
  else none

/-- The marks in a text, from left to right. No character belongs to two of them. -/
def marks (nested : Bool) : List Char → List Mark
  | c :: d :: cs =>
    match mark? nested c d with
    | some mark => mark :: marks nested cs
    | none => marks nested (d :: cs)
  | _ => []

/-- The marks close what they open, and nothing else. -/
def Balanced (marks : List Mark) : Prop := marks.foldlM Mark.depth? 0 = some 0

instance (marks : List Mark) : Decidable (Balanced marks) :=
  inferInstanceAs (Decidable (_ = _))

/-- What follows the mark that closes a comment, the number of open comments inside it being given.
-/
def commentEnd? (nested : Bool) : Nat → List Char → Option (List Char)
  | depth, c :: d :: cs =>
    match mark? nested c d with
    | some mark =>
      match mark.depth? depth with
      | some depth => commentEnd? nested depth cs
      | none => some cs
    | none => commentEnd? nested depth (d :: cs)
  | _, _ => none

/-- What follows a comment between marks at the beginning of a text. -/
def behindBlock? (nested : Bool) (cs : List Char) : Option (List Char) :=
  (after? ['/', '*'] cs).bind (commentEnd? nested 0)

/-- What follows a comment behind slashes at the beginning of a text: a line break, if anything. -/
def behindSlashes? (b : LineBreaks) (cs : List Char) : Option (List Char) :=
  (after? ['/', '/'] cs).map (List.dropWhile fun c => !b.ends c)

section Marks

variable {nested : Bool} {depth : Nat} {b c d : Char} {cs u v rest : List Char} {mark : Mark}

theorem mark?_of_isBlank (hb : isBlank b = true) (d : Char) :
    mark? nested b d = none ∧ mark? nested d b = none := by
  have hstar : b ≠ '*' := by
    rintro rfl
    exact absurd hb (by decide)
  have hslash : b ≠ '/' := by
    rintro rfl
    exact absurd hb (by decide)
  simp [mark?, hstar, hslash]

theorem eq_closing_of_mark? (h : mark? false c d = some mark) :
    c = '*' ∧ d = '/' ∧ mark = .closing := by
  rw [mark?] at h
  split at h
  · rename_i hcd
    exact ⟨hcd.1, hcd.2, (Option.some.inj h).symm⟩
  · simp at h

theorem marks_of_some (h : mark? nested c d = some mark) (cs : List Char) :
    marks nested (c :: d :: cs) = mark :: marks nested cs := by
  rw [marks, h]

theorem marks_of_none (h : mark? nested c d = none) (cs : List Char) :
    marks nested (c :: d :: cs) = marks nested (d :: cs) := by
  rw [marks, h]

theorem commentEnd?_of_some (h : mark? nested c d = some mark) (depth : Nat) (cs : List Char) :
    commentEnd? nested depth (c :: d :: cs) =
      (mark.depth? depth).elim (some cs) fun depth => commentEnd? nested depth cs := by
  rw [commentEnd?, h]
  dsimp only
  cases mark.depth? depth <;> rfl

theorem commentEnd?_of_none (h : mark? nested c d = none) (depth : Nat) (cs : List Char) :
    commentEnd? nested depth (c :: d :: cs) = commentEnd? nested depth (d :: cs) := by
  rw [commentEnd?, h]

/-- A blank is no part of a mark. -/
theorem marks_append_blank (u : List Char) (hb : isBlank b = true) (v : List Char) :
    marks nested (u ++ b :: v) = marks nested u ++ marks nested v := by
  have hblank : marks nested (b :: v) = marks nested v := by
    cases v with
    | nil => rfl
    | cons d v => exact marks_of_none (mark?_of_isBlank hb d).1 v
  induction u using marks.induct nested with
  | case1 c d u mark hmark ih =>
      rw [List.cons_append, List.cons_append, marks_of_some hmark, marks_of_some hmark, ih,
        List.cons_append]
  | case2 c d u hmark ih =>
      rw [List.cons_append, List.cons_append, marks_of_none hmark, marks_of_none hmark]
      exact ih
  | case3 u hu =>
      match u with
      | [] => exact hblank
      | [c] => exact (marks_of_none (mark?_of_isBlank hb c).2 v).trans hblank
      | c :: d :: u => exact absurd rfl (hu c d u)

theorem marks_oneSpaced (nested : Bool) (s : String) :
    marks nested (oneSpaced s).toList = marks nested s.toList :=
  eq_oneSpaced rfl (fun u _ v hb => marks_append_blank u hb v) s

theorem length_commentEnd (h : commentEnd? nested depth cs = some rest) :
    rest.length < cs.length := by
  induction cs using marks.induct nested generalizing depth with
  | case1 c d cs mark hmark ih =>
      rw [commentEnd?_of_some hmark] at h
      rw [List.length_cons, List.length_cons]
      cases hdepth : mark.depth? depth with
      | none =>
          rw [hdepth] at h
          cases h
          omega
      | some depth =>
          rw [hdepth] at h
          have hlength := ih h
          omega
  | case2 c d cs hmark ih =>
      rw [commentEnd?_of_none hmark] at h
      exact Nat.lt_succ_of_lt (ih h)
  | case3 cs hcs =>
      match cs with
      | [] => cases h
      | [c] => cases h
      | c :: d :: cs => exact absurd rfl (hcs c d cs)

/-- Where the text of a comment is at its end, the mark behind it closes the comment unless another
one is still open. -/
theorem commentEnd?_closing (hb : isBlank b = true) (depth : Nat) (rest : List Char) :
    commentEnd? nested depth (b :: '*' :: '/' :: rest) = some rest ↔ depth = 0 := by
  have hmark : mark? nested '*' '/' = some .closing := rfl
  rw [commentEnd?_of_none (mark?_of_isBlank hb '*').1, commentEnd?_of_some hmark]
  cases depth with
  | zero => exact iff_of_true rfl rfl
  | succ depth =>
      refine iff_of_false (fun h => ?_) (Nat.succ_ne_zero depth)
      exact absurd (length_commentEnd h) (Nat.lt_irrefl _)

/-- A comment that is closed behind its text ends there exactly if the marks in the text leave as
many comments open as there were. -/
theorem commentEnd?_iff (u : List Char) (hb : isBlank b = true) (depth : Nat) (rest : List Char) :
    commentEnd? nested depth (u ++ b :: '*' :: '/' :: rest) = some rest ↔
      (marks nested u).foldlM Mark.depth? depth = some 0 := by
  induction u using marks.induct nested generalizing depth with
  | case1 c d u mark hmark ih =>
      rw [List.cons_append, List.cons_append, commentEnd?_of_some hmark, marks_of_some hmark,
        List.foldlM_cons]
      cases mark.depth? depth with
      | none =>
          refine iff_of_false (fun h => ?_) (fun h => by cases h)
          have hlength := congrArg List.length (Option.some.inj h)
          simp at hlength
          omega
      | some depth => exact ih depth
  | case2 c d u hmark ih =>
      rw [List.cons_append, List.cons_append, commentEnd?_of_none hmark, marks_of_none hmark]
      exact ih depth
  | case3 u hu =>
      have hnone : (([] : List Mark).foldlM Mark.depth? depth = some 0) ↔ depth = 0 := by
        rw [List.foldlM_nil]
        exact Option.some_inj
      match u with
      | [] => exact (commentEnd?_closing hb depth rest).trans hnone.symm
      | [c] =>
          rw [List.singleton_append, commentEnd?_of_none (mark?_of_isBlank hb c).2]
          exact (commentEnd?_closing hb depth rest).trans hnone.symm
      | c :: d :: u => exact absurd rfl (hu c d u)

/-- Where comments are not nested, a comment ends where the closing mark first occurs. -/
theorem balanced_marks_iff (cs : List Char) :
    Balanced (marks false cs) ↔ ¬ ['*', '/'] <:+: cs := by
  induction cs using marks.induct false with
  | case1 c d cs mark hmark ih =>
      obtain ⟨rfl, rfl, rfl⟩ := eq_closing_of_mark? hmark
      rw [marks_of_some hmark]
      exact iff_of_false (by simp [Balanced, Mark.depth?])
        (not_not_intro (List.prefix_append ['*', '/'] cs).isInfix)
  | case2 c d cs hmark ih =>
      have hprefix : ¬ ['*', '/'] <+: c :: d :: cs := by
        intro h
        obtain ⟨rfl, htail⟩ := List.cons_prefix_cons.1 h
        obtain ⟨rfl, _⟩ := List.cons_prefix_cons.1 htail
        cases hmark
      rw [marks_of_none hmark, ih, List.infix_cons_iff (a := c), or_iff_right hprefix]
  | case3 cs hcs =>
      refine iff_of_true ?_ fun h => ?_
      · match cs with
        | [] => rfl
        | [c] => rfl
        | c :: d :: cs => exact absurd rfl (hcs c d cs)
      · match cs with
        | [] => exact absurd h.length_le (by simp)
        | [c] => exact absurd h.length_le (by simp)
        | c :: d :: cs => exact absurd rfl (hcs c d cs)

end Marks

/-! ### Comments on one line -/

/-- What a documentation comment ends with. -/
def CommentStyle.closing : CommentStyle → String
  | .line _ => ""
  | .block => " */"

theorem eq_of_mem_docComment {style : CommentStyle} {text : Option String} {line : String}
    (h : line ∈ docComment style text) :
    line = style.opening ++ oneSpaced (text.getD "") ++ style.closing := by
  cases text with
  | none => cases h
  | some s =>
      simp only [docComment] at h
      split at h
      · cases h
      · cases style <;> simpa [CommentStyle.opening, CommentStyle.closing] using h

/-- The only blanks in a documentation comment are spaces. -/
theorem eq_space_of_mem_docComment {style : CommentStyle} {text : Option String} {line : String}
    (h : line ∈ docComment style text)
    (hopening : ∀ c ∈ style.opening.toList, isBlank c = true → c = ' ') {c : Char}
    (hc : c ∈ line.toList) (hblank : isBlank c = true) : c = ' ' := by
  rw [eq_of_mem_docComment h, String.toList_append, String.toList_append, List.mem_append,
    List.mem_append] at hc
  rcases hc with (hc | hc) | hc
  · exact hopening c hc hblank
  · exact eq_space_of_mem_oneSpaced hc hblank
  · cases style with
    | line mark => cases hc
    | block =>
        have hclosing : ∀ c ∈ " */".toList, isBlank c = true → c = ' ' :=
          List.all_iff_forall_prop.1 (by decide)
        exact hclosing c hc hblank

/-- A comment between marks with a text in it. -/
theorem eq_of_mem_docComment_block {text : Option String} {line : String}
    (h : line ∈ docComment .block text) : line.toList =
      "/**".toList ++ ' ' :: ((oneSpaced (text.getD "")).toList ++ [' ', '*', '/']) := by
  rw [eq_of_mem_docComment h]
  simp [CommentStyle.opening, CommentStyle.closing]

/-- A comment between marks ends with its line exactly if the marks of its text are balanced. -/
theorem behindBlock?_docComment {text : Option String} {line : String}
    (h : line ∈ docComment .block text) (nested : Bool) (rest : List Char) :
    behindBlock? nested (line.toList ++ rest) = some rest ↔
      Balanced (marks nested (text.getD "").toList) := by
  let t := (oneSpaced (text.getD "")).toList
  have hline : line.toList ++ rest =
      ['/', '*'] ++ (('*' :: ' ' :: t) ++ ' ' :: '*' :: '/' :: rest) := by
    rw [eq_of_mem_docComment_block h]
    simp [t]
  have hmarks : marks nested ('*' :: ' ' :: t) = marks nested (text.getD "").toList :=
    (marks_append_blank ['*'] (by decide) t).trans (marks_oneSpaced nested _)
  rw [behindBlock?, hline, after?_append, Option.bind_some, commentEnd?_iff _ (by decide), hmarks,
    Balanced]

/-- The only closing mark is the one at the end exactly if there is none between the words. -/
theorem last_closing_iff (t : List Char) :
    (∀ u v, ' ' :: (t ++ [' ', '*', '/']) = u ++ '*' :: '/' :: v → v = []) ↔
      ¬ ['*', '/'] <:+: t := by
  have hinner : ¬ ['*', '/'] <:+: ' ' :: (t ++ [' ', '*']) ↔ ¬ ['*', '/'] <:+: t := by
    have hmarks : marks false (' ' :: (t ++ [' ', '*'])) = marks false t := by
      rw [← List.nil_append (' ' :: _), marks_append_blank [] (by decide),
        marks_append_blank t (by decide)]
      exact List.append_nil _
    rw [← balanced_marks_iff, hmarks, balanced_marks_iff]
  constructor
  · rintro h ⟨x, y, rfl⟩
    have hend := h (' ' :: x) (y ++ [' ', '*', '/']) (by simp)
    simp at hend
  · intro hnot u v heq
    rcases List.eq_nil_or_concat v with hv | ⟨w, last, rfl⟩
    · exact hv
    · have hsplit : ' ' :: (t ++ [' ', '*']) ++ ['/'] = (u ++ '*' :: '/' :: w) ++ [last] := by
        simpa using heq
      obtain ⟨hfront, _⟩ := List.append_inj' hsplit rfl
      exact absurd ⟨u, w, by simpa using hfront.symm⟩ (hinner.2 hnot)

/-- There is no line break in a documentation comment. -/
theorem not_isLineSeparator_of_mem_docComment {style : CommentStyle} {text : Option String}
    {line : String} (h : line ∈ docComment style text)
    (hopening : ∀ c ∈ style.opening.toList, isBlank c = true → c = ' ') :
    ∀ c ∈ line.toList, isLineSeparator c = false := by
  intro c hc
  rw [← Bool.not_eq_true]
  intro hseparator
  obtain ⟨hblank, hne⟩ := isBlank_of_isLineSeparator hseparator
  exact hne (eq_space_of_mem_docComment h hopening hc hblank)

/-- A comment behind slashes goes up to the end of its line. -/
theorem behindSlashes?_docComment {text : Option String} {line : String}
    (h : line ∈ docComment .slashes text) {b : LineBreaks} {rest : List Char}
    (hrest : ∀ c ∈ rest.head?, b.ends c = true) :
    behindSlashes? b (line.toList ++ rest) = some rest := by
  have hopening : ∀ c ∈ CommentStyle.slashes.opening.toList, isBlank c = true → c = ' ' :=
    List.all_iff_forall_prop.1 (by decide)
  have hline : line.toList = ['/', '/'] ++ '/' :: ' ' :: (oneSpaced (text.getD "")).toList := by
    rw [eq_of_mem_docComment h]
    simp [CommentStyle.opening, CommentStyle.closing, CommentStyle.slashes]
  have hunbroken : b.Unbroken line.toList :=
    LineBreaks.unbroken_of_not_isLineSeparator (not_isLineSeparator_of_mem_docComment h hopening)
  have hend : rest.dropWhile (fun c => !b.ends c) = rest := by
    cases rest with
    | nil => rfl
    | cons c rest => exact List.dropWhile_cons_of_neg (by simp [hrest c rfl])
  rw [hline] at hunbroken ⊢
  rw [behindSlashes?, List.append_assoc, after?_append, Option.map_some,
    List.dropWhile_append_of_pos fun c hc => by simp [hunbroken c (List.mem_append_right _ hc)],
    hend]

/-- A documentation comment is one line at most, and there is no line break in it. Behind slashes it
goes up to the end of its line. Between marks it does so exactly if the closing mark does not occur
in its text, and where comments are nested, exactly if the marks of its text are balanced. -/
theorem docComment_ends_iff (text : Option String) :
    (∀ style, (docComment style text).length ≤ 1) ∧
    (∀ style, style = .slashes ∨ style = .block → ∀ line ∈ docComment style text,
      ∀ c ∈ line.toList, isLineSeparator c = false) ∧
    (∀ line ∈ docComment .slashes text, ∀ (b : LineBreaks) rest,
      (∀ c ∈ rest.head?, b.ends c = true) →
        behindSlashes? b (line.toList ++ rest) = some rest) ∧
    ∀ line ∈ docComment .block text,
      ((∀ u v, line.toList = "/**".toList ++ (u ++ '*' :: '/' :: v) → v = []) ↔
        ¬ ['*', '/'] <:+: (text.getD "").toList) ∧
      (∀ rest, behindBlock? false (line.toList ++ rest) = some rest ↔
        ¬ ['*', '/'] <:+: (text.getD "").toList) ∧
      ∀ rest, behindBlock? true (line.toList ++ rest) = some rest ↔
        Balanced (marks true (text.getD "").toList) := by
  have hwords : ¬ ['*', '/'] <:+: (oneSpaced (text.getD "")).toList ↔
      ¬ ['*', '/'] <:+: (text.getD "").toList := by
    rw [← balanced_marks_iff, marks_oneSpaced, balanced_marks_iff]
  refine ⟨fun style => ?_, ?_, fun _ h _ _ hrest => behindSlashes?_docComment h hrest, ?_⟩
  · obtain h | ⟨rest, h⟩ := docComment_eq style text
    · simp [h]
    · simp [h]
  · intro style hstyle line hline c hc
    have hopening : ∀ c ∈ style.opening.toList, isBlank c = true → c = ' ' := by
      rcases hstyle with rfl | rfl <;> exact List.all_iff_forall_prop.1 (by decide)
    exact not_isLineSeparator_of_mem_docComment hline hopening c hc
  · intro line hline
    refine ⟨?_, fun rest => ?_, fun rest => behindBlock?_docComment hline true rest⟩
    · rw [← hwords, ← last_closing_iff, eq_of_mem_docComment_block hline]
      simp only [List.append_cancel_left_eq]
    · rw [behindBlock?_docComment hline, balanced_marks_iff]

theorem docComment_ends_ordersText :
    docComment .slashes (some "Lists  the\norders.") = ["/// Lists the orders."] ∧
      behindSlashes? .all ("/// Lists the orders.".toList ++ ['\n']) = some ['\n'] ∧
      docComment .block (some "Lists  the\norders.") = ["/** Lists the orders. */"] ∧
      behindBlock? false ("/** Lists the orders. */".toList ++ ['\n']) = some ['\n'] := by
  obtain ⟨_, _, hslashes, hblock⟩ := docComment_ends_iff (some "Lists  the\norders.")
  have hline : docComment .slashes (some "Lists  the\norders.") = ["/// Lists the orders."] := by
    decide +kernel
  have hmarked : docComment .block (some "Lists  the\norders.") = ["/** Lists the orders. */"] := by
    decide +kernel
  have hplain : ¬ ['*', '/'] <:+: "Lists  the\norders.".toList := by decide +kernel
  rw [hline] at hslashes
  rw [hmarked] at hblock
  obtain ⟨_, hread, _⟩ := hblock _ List.mem_cons_self
  exact ⟨hline, hslashes _ List.mem_cons_self .all ['\n'] fun c hc => Option.some.inj hc ▸ rfl,
    hmarked, (hread ['\n']).2 hplain⟩

/-- A pattern of file names may close the comment that it is put into. -/
theorem not_docComment_ends_globText :
    docComment .block (some "**/*.ts") = ["/** **/*.ts */"] ∧
      "/** **/*.ts */".toList = "/**".toList ++ (" *".toList ++ '*' :: '/' :: "*.ts */".toList) ∧
      ∀ nested, behindBlock? nested "/** **/*.ts */".toList = some "*.ts */".toList := by
  decide +kernel

end Lines

end SpecForge
