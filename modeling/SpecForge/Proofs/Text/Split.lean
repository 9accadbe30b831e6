import Mathlib.Data.Bool.AllAny
import SpecForge.Text.Blank
import SpecForge.Text.Split

/-!
# The parts and the lines of a text

A text has parts between separators. What is behind the last separator goes to the last part, and
the other parts do not depend on it.

The lines of a text are cut at line feeds and carriage returns, of which the two together are one
line break, and at further separators, on which readers of a text do not agree. What stands in front
of a line feed and what stands behind it are cut each for itself.
-/

namespace SpecForge.Text

/-! ### Parts -/

theorem splitChars_cons_sep (sep : Char) (cs : List Char) :
    splitChars sep (sep :: cs) = [] :: splitChars sep cs := by
  rw [splitChars, if_pos rfl]

theorem splitChars_cons {sep c : Char} (h : c ≠ sep) {cs part : List Char}
    {parts : List (List Char)} (hs : splitChars sep cs = part :: parts) :
    splitChars sep (c :: cs) = (c :: part) :: parts := by
  rw [splitChars, if_neg h, hs]

theorem splitChars_of_not_mem {sep : Char} {cs : List Char} (h : sep ∉ cs) :
    splitChars sep cs = [cs] := by
  induction cs with
  | nil => rfl
  | cons c cs ih =>
      rw [List.mem_cons, not_or] at h
      exact splitChars_cons (Ne.symm h.1) (ih h.2)

/-- What is in front of a separator and what is behind it are split each for itself. -/
theorem splitChars_append_sep (sep : Char) (front cs : List Char) :
    splitChars sep (front ++ sep :: cs) = splitChars sep front ++ splitChars sep cs := by
  induction front with
  | nil => exact splitChars_cons_sep sep cs
  | cons c front ih =>
      by_cases hc : c = sep
      · rw [hc, List.cons_append, splitChars_cons_sep, splitChars_cons_sep, ih]
        rfl
      · obtain ⟨part, parts, hparts⟩ := List.exists_cons_of_ne_nil (splitChars_ne_nil sep front)
        rw [hparts] at ih
        rw [List.cons_append, splitChars_cons hc ih, splitChars_cons hc hparts]
        rfl

/-- Characters that are no separators are added to the last part. -/
theorem splitChars_append {sep : Char} {ending : List Char} (h : sep ∉ ending) (cs : List Char) :
    ∃ parts part, splitChars sep cs = parts ++ [part] ∧
      splitChars sep (cs ++ ending) = parts ++ [part ++ ending] := by
  induction cs with
  | nil => exact ⟨[], [], rfl, splitChars_of_not_mem h⟩
  | cons c cs ih =>
      obtain ⟨parts, part, hcs, hending⟩ := ih
      by_cases hc : c = sep
      · subst hc
        refine ⟨[] :: parts, part, ?_, ?_⟩
        · rw [splitChars_cons_sep, hcs]
          rfl
        · rw [List.cons_append, splitChars_cons_sep, hending]
          rfl
      · cases parts with
        | nil => exact ⟨[], c :: part, splitChars_cons hc hcs, splitChars_cons hc hending⟩
        | cons first parts =>
            exact ⟨(c :: first) :: parts, part, splitChars_cons hc hcs,
              splitChars_cons hc hending⟩

/-! ### Lines -/

/-- Characters that end a line for some reader. -/
def isLineSeparator (c : Char) : Bool :=
  let n := c.toNat
  (0xa ≤ n && n ≤ 0xd) || (0x1c ≤ n && n ≤ 0x1e) || n == 0x85 || n == 0x2028 || n == 0x2029

/-- A character that ends a line is blank, but not a space. -/
theorem isBlank_of_isLineSeparator {c : Char} (h : isLineSeparator c = true) :
    isBlank c = true ∧ c ≠ ' ' := by
  constructor
  · simp only [isLineSeparator, isBlank, isWhiteSpace, Bool.or_eq_true, Bool.and_eq_true,
      decide_eq_true_eq, beq_iff_eq] at h ⊢
    omega
  · rintro rfl
    exact absurd h (by decide)

/-- What ends a line besides line feeds and carriage returns. -/
structure LineBreaks where
  further : Char → Bool
  isLineSeparator_of_further : ∀ {c}, further c = true → isLineSeparator c = true

namespace LineBreaks

/-- Nothing else ends a line. -/
def plain : LineBreaks where
  further _ := false
  isLineSeparator_of_further h := absurd h Bool.false_ne_true

/-- All separators end a line. -/
def all : LineBreaks where
  further := isLineSeparator
  isLineSeparator_of_further h := h

variable (b : LineBreaks)

/-- The characters that end a line where all line breaks are written in one way. -/
def isBreak (c : Char) : Bool := c == '\n' || b.further c

/-- The lines of a text. -/
def lines (cs : List Char) : List (List Char) := (unifyBreaks cs).splitOnP b.isBreak

/-- The lines of a text behind which a line feed stands. -/
def ended (cs : List Char) : List (List Char) := (b.lines (cs ++ ['\n'])).dropLast

/-- The characters that end a line. -/
def ends (c : Char) : Bool := c == '\r' || b.isBreak c

/-- There is no line break in a text. -/
def Unbroken (cs : List Char) : Prop := ∀ c ∈ cs, b.ends c = false

instance (cs : List Char) : Decidable (b.Unbroken cs) :=
  List.decidableBAll (fun c => b.ends c = false) cs

variable {b}

theorem isBreak_lineFeed : b.isBreak '\n' = true := rfl

theorem ends_eq_false_iff {c : Char} : b.ends c = false ↔ c ≠ '\r' ∧ b.isBreak c = false := by
  rw [ends, Bool.or_eq_false_iff, beq_eq_false_iff_ne]

theorem isLineSeparator_of_ends {c : Char} (h : b.ends c = true) : isLineSeparator c = true := by
  simp only [ends, isBreak, Bool.or_eq_true, beq_iff_eq] at h
  rcases h with rfl | rfl | hfurther
  · rfl
  · rfl
  · exact b.isLineSeparator_of_further hfurther

theorem unifyBreaks_cons {c : Char} (h : c ≠ '\r') (cs : List Char) :
    unifyBreaks (c :: cs) = c :: unifyBreaks cs :=
  unifyBreaks.eq_3 c cs (fun _ hc _ => h hc) h

/-- What stands in front of a line feed is written in one way whatever follows it. -/
theorem exists_unifyBreaks_append (u : List Char) :
    ∃ front, ∀ v, unifyBreaks (u ++ '\n' :: v) = front ++ '\n' :: unifyBreaks v := by
  induction u using unifyBreaks.induct with
  | case1 u ih =>
      obtain ⟨front, hfront⟩ := ih
      exact ⟨'\n' :: front, fun v => congrArg _ (hfront v)⟩
  | case2 u hu ih =>
      cases u with
      | nil => exact ⟨[], fun v => rfl⟩
      | cons c u =>
          obtain ⟨front, hfront⟩ := ih
          refine ⟨'\n' :: front, fun v => ?_⟩
          rw [List.cons_append, unifyBreaks, hfront]
          · rfl
          · rintro _ heq
            cases heq
            exact hu u rfl
  | case3 c u _ hc ih =>
      obtain ⟨front, hfront⟩ := ih
      refine ⟨c :: front, fun v => ?_⟩
      rw [List.cons_append, unifyBreaks_cons hc, hfront, List.cons_append]
  | case4 => exact ⟨[], fun v => rfl⟩

theorem unifyBreaks_append {front : List Char} (h : ∀ c ∈ front, c ≠ '\r') (cs : List Char) :
    unifyBreaks (front ++ cs) = front ++ unifyBreaks cs := by
  induction front with
  | nil => rfl
  | cons c front ih =>
      obtain ⟨hc, hfront⟩ := List.forall_mem_cons.1 h
      rw [List.cons_append, unifyBreaks_cons hc, ih hfront, List.cons_append]

/-- What no separator is in is unbroken for every reader. -/
theorem unbroken_of_not_isLineSeparator {cs : List Char} (h : ∀ c ∈ cs, isLineSeparator c = false) :
    b.Unbroken cs := by
  intro c hc
  exact Bool.eq_false_iff.2 fun hends =>
    Bool.false_ne_true ((h c hc).symm.trans (isLineSeparator_of_ends hends))

theorem splitOnP_append {p : Char → Bool} {front cs first : List Char} {others : List (List Char)}
    (h : ∀ c ∈ front, p c = false) (hcs : cs.splitOnP p = first :: others) :
    (front ++ cs).splitOnP p = (front ++ first) :: others := by
  induction front with
  | nil => exact hcs
  | cons c front ih =>
      obtain ⟨hc, hfront⟩ := List.forall_mem_cons.1 h
      rw [List.cons_append, List.splitOnP_cons_eq_if_modifyHead, if_neg (by simp [hc]), ih hfront]
      rfl

theorem lines_of_unifyBreaks {u front v : List Char}
    (h : unifyBreaks (u ++ '\n' :: v) = front ++ '\n' :: unifyBreaks v) :
    b.lines (u ++ '\n' :: v) = front.splitOnP b.isBreak ++ b.lines v := by
  rw [lines, h, List.splitOnP_append_cons _ _ isBreak_lineFeed, lines]

theorem ended_of_unifyBreaks {u front : List Char}
    (h : unifyBreaks (u ++ ['\n']) = front ++ '\n' :: unifyBreaks []) :
    b.ended u = front.splitOnP b.isBreak := by
  rw [ended, lines_of_unifyBreaks h, lines, unifyBreaks, List.splitOnP_nil, List.dropLast_concat]

/-- A text is cut at each of its line feeds. -/
theorem lines_append (u v : List Char) : b.lines (u ++ '\n' :: v) = b.ended u ++ b.lines v := by
  obtain ⟨front, hfront⟩ := exists_unifyBreaks_append u
  rw [lines_of_unifyBreaks (hfront v), ended_of_unifyBreaks (hfront [])]

theorem ended_append (u v : List Char) : b.ended (u ++ '\n' :: v) = b.ended u ++ b.ended v := by
  have hne : b.lines (v ++ ['\n']) ≠ [] := List.splitOnP_ne_nil _ _
  rw [ended, List.append_assoc, List.cons_append, lines_append, List.dropLast_append_of_ne_nil hne]
  rfl

/-- An unbroken text goes into the first line of what follows it. -/
theorem exists_lines_append {front : List Char} (h : b.Unbroken front) (cs : List Char) :
    ∃ first later, b.lines (front ++ cs) = first :: later ∧ front <+: first := by
  obtain ⟨first, later, hsplit⟩ :=
    List.exists_cons_of_ne_nil (List.splitOnP_ne_nil b.isBreak (unifyBreaks cs))
  refine ⟨front ++ first, later, ?_, List.prefix_append front first⟩
  rw [lines, unifyBreaks_append fun c hc => (ends_eq_false_iff.1 (h c hc)).1]
  exact splitOnP_append (fun c hc => (ends_eq_false_iff.1 (h c hc)).2) hsplit

theorem exists_ended_append {front : List Char} (h : b.Unbroken front) (cs : List Char) :
    ∃ first others, b.ended cs = first :: others ∧
      b.ended (front ++ cs) = (front ++ first) :: others := by
  obtain ⟨unified, hunified⟩ := exists_unifyBreaks_append cs
  obtain ⟨first, others, hsplit⟩ :=
    List.exists_cons_of_ne_nil (List.splitOnP_ne_nil b.isBreak unified)
  have hfront : unifyBreaks (front ++ cs ++ ['\n']) =
      (front ++ unified) ++ '\n' :: unifyBreaks [] := by
    rw [List.append_assoc, unifyBreaks_append fun c hc => (ends_eq_false_iff.1 (h c hc)).1,
      hunified, List.append_assoc]
  refine ⟨first, others, ?_, ?_⟩
  · rw [ended_of_unifyBreaks (hunified []), hsplit]
  · rw [ended_of_unifyBreaks hfront]
    exact splitOnP_append (fun c hc => (ends_eq_false_iff.1 (h c hc)).2) hsplit

theorem ended_of_unbroken {cs : List Char} (h : b.Unbroken cs) : b.ended cs = [cs] := by
  have hunified : unifyBreaks ([] ++ ['\n']) = [] ++ '\n' :: unifyBreaks [] := rfl
  have hnil := (ended_of_unifyBreaks (b := b) hunified).trans List.splitOnP_nil
  obtain ⟨first, others, hfirst, hcs⟩ := exists_ended_append h []
  rw [hnil] at hfirst
  cases hfirst
  rw [List.append_nil] at hcs
  exact hcs

end LineBreaks

end SpecForge.Text
