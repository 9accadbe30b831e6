import SpecForge.Lines
import SpecForge.Proofs.Text.Read
import SpecForge.Text.Digit

/-!
# String literals in Kotlin

A reader for string literals by the rules of the language. A backslash begins an escape. A dollar
sign before a name or a brace begins a template, with which the literal is no plain one. The literal
must end in the line in which it begins. What was written between quotes, with backslashes before
quotes and backslashes only, is a plain literal for the same text exactly if the text has neither
line breaks nor templates in it.
-/

namespace SpecForge.Kotlin

open Text

/-- The characters that a name can begin with. ASCII letters and the underscore are among them; the
signs that end a literal or begin an escape are not. -/
structure Alphabet where
  begins : Char → Bool
  letter : ∀ c, isAsciiLetter c = true → begins c = true
  underscore : begins '_' = true
  quote : begins '"' = false
  backslash : begins '\\' = false

/-- Does the line end with the character? -/
def isLineBreak (c : Char) : Bool := c == '\n' || c == '\r'

/-- What a character behind a backslash stands for. -/
def escaped? : Char → Option Char
  | 't' => some '\t'
  | 'b' => some '\x08'
  | 'n' => some '\n'
  | 'r' => some '\r'
  | '\'' => some '\''
  | '"' => some '"'
  | '\\' => some '\\'
  | '$' => some '$'
  | _ => none

/-- The character with a number of four hexadecimal digits. One half of a pair is none. -/
def numbered? (digits : List Char) : Option Char := do
  let values ← digits.mapM hexValue?
  let n := values.foldl (fun n d => 16 * n + d) 0
  if n.isValidChar then some (Char.ofNat n) else none

namespace Alphabet

variable (a : Alphabet)

/-- Does a dollar sign before the character begin a template? -/
def opensTemplate (c : Char) : Bool := c == '\x7b' || a.begins c

/-- The text up to the closing quote, and what follows the quote. -/
def content? : List Char → Option (List Char × List Char)
  | [] => none
  | [c] => if c = '"' then some ([], []) else none
  | c :: d :: cs =>
    if c = '"' then some ([], d :: cs)
    else if isLineBreak c then none
    else if c = '\\' then
      if d = 'u' then
        match cs with
        | w :: x :: y :: z :: behind => do
          let e ← numbered? [w, x, y, z]
          (content? behind).map fun r => (e :: r.1, r.2)
        | _ => none
      else do
        let e ← escaped? d
        (content? cs).map fun r => (e :: r.1, r.2)
    else if c = '$' ∧ a.opensTemplate d = true then none
    else (content? (d :: cs)).map fun r => (c :: r.1, r.2)

/-- The text of a plain literal at the beginning, and what follows it. Behind three quotes there is
a literal of another kind. -/
def literal? (cs : List Char) : Option (List Char × List Char) :=
  if (after? ['"', '"', '"'] cs).isSome then none else (after? ['"'] cs).bind a.content?

/-- Has a text neither line breaks nor templates in it? -/
def isPlain : List Char → Bool
  | [] => true
  | c :: cs => !isLineBreak c && !(c == '$' && cs.head?.any a.opensTemplate) && isPlain cs

theorem isPlain_iff {cs : List Char} : a.isPlain cs = true ↔
    (∀ c ∈ cs, isLineBreak c = false) ∧
      ∀ u d v, cs = u ++ '$' :: d :: v → a.opensTemplate d = false := by
  induction cs with
  | nil => simp [isPlain]
  | cons c cs ih =>
      rw [isPlain, Bool.and_eq_true, Bool.and_eq_true, ih, List.forall_mem_cons]
      constructor
      · rintro ⟨⟨hc, htemplate⟩, hbreaks, htemplates⟩
        refine ⟨⟨by simpa using hc, hbreaks⟩, ?_⟩
        intro u d v heq
        cases u with
        | nil =>
            obtain ⟨rfl, rfl⟩ := List.cons.inj heq
            simpa using htemplate
        | cons c' u => exact htemplates u d v (List.cons.inj heq).2
      · rintro ⟨⟨hc, hbreaks⟩, htemplates⟩
        refine ⟨⟨by simpa using hc, ?_⟩, hbreaks, ?_⟩
        · cases cs with
          | nil => simp
          | cons d cs =>
              by_cases hdollar : c = '$'
              · simp [htemplates [] d cs (by rw [hdollar, List.nil_append])]
              · simp [hdollar]
        · intro u d v heq
          exact htemplates (c :: u) d v (by rw [heq, List.cons_append])

/-! ### What was written is read -/

theorem content?_quote (cs : List Char) : a.content? ('"' :: cs) = some ([], cs) := by
  cases cs with
  | nil => rfl
  | cons d cs => rw [content?.eq_def]; rfl

theorem content?_escaped {c : Char} (hc : c = '\\' ∨ c = '"') (cs : List Char) :
    a.content? ('\\' :: c :: cs) = (a.content? cs).map fun r => (c :: r.1, r.2) := by
  rw [content?.eq_def]
  rcases hc with rfl | rfl <;> rfl

theorem content?_cons {c : Char} (hc : ¬ (c = '\\' ∨ c = '"')) (d : Char) (cs : List Char) :
    a.content? (c :: d :: cs) =
      if isLineBreak c || (c == '$' && a.opensTemplate d) then none
      else (a.content? (d :: cs)).map fun r => (c :: r.1, r.2) := by
  rw [not_or] at hc
  rw [content?.eq_def]
  dsimp only
  rw [if_neg hc.2, if_neg hc.1]
  cases isLineBreak c with
  | true => rfl
  | false => simp

theorem escape_cons_of_special {c : Char} (hc : c = '\\' ∨ c = '"') (cs : List Char) :
    Quoted.escape '"' (c :: cs) = '\\' :: c :: Quoted.escape '"' cs := by
  simp [Quoted.escape, hc]

theorem escape_cons_of_not_special {c : Char} (hc : ¬ (c = '\\' ∨ c = '"')) (cs : List Char) :
    Quoted.escape '"' (c :: cs) = c :: Quoted.escape '"' cs := by
  simp [Quoted.escape, hc]

/-- No backslash and no quote opens a template, so the signs that are put in do not hide one. -/
theorem exists_escape_eq_cons (cs rest : List Char) :
    ∃ d tail, Quoted.escape '"' cs ++ '"' :: rest = d :: tail ∧
      a.opensTemplate d = cs.head?.any a.opensTemplate := by
  have hquote : a.opensTemplate '"' = false := by simp [opensTemplate, a.quote]
  have hbackslash : a.opensTemplate '\\' = false := by simp [opensTemplate, a.backslash]
  cases cs with
  | nil => exact ⟨'"', rest, rfl, hquote⟩
  | cons c cs =>
      by_cases hc : c = '\\' ∨ c = '"'
      · refine ⟨'\\', _, by rw [escape_cons_of_special hc]; rfl, ?_⟩
        rcases hc with rfl | rfl
        · rfl
        · simp [hquote, hbackslash]
      · exact ⟨c, _, by rw [escape_cons_of_not_special hc]; rfl, rfl⟩

theorem content?_escape (cs rest : List Char) :
    a.content? (Quoted.escape '"' cs ++ '"' :: rest) =
      if a.isPlain cs then some (cs, rest) else none := by
  induction cs with
  | nil => exact a.content?_quote rest
  | cons c cs ih =>
      by_cases hc : c = '\\' ∨ c = '"'
      · have hplain : a.isPlain (c :: cs) = a.isPlain cs := by
          rcases hc with rfl | rfl <;> simp [isPlain, isLineBreak]
        rw [escape_cons_of_special hc, List.cons_append, List.cons_append, a.content?_escaped hc,
          ih, hplain]
        cases a.isPlain cs <;> rfl
      · obtain ⟨d, tail, heq, hopens⟩ := a.exists_escape_eq_cons cs rest
        rw [escape_cons_of_not_special hc, List.cons_append, heq, a.content?_cons hc, ← heq, ih,
          hopens, isPlain]
        cases isLineBreak c <;> cases c == '$' && cs.head?.any a.opensTemplate <;>
          cases a.isPlain cs <;> rfl

/-- A literal of one line does not begin with three quotes, unless a quote follows an empty one. -/
theorem after?_three_quotes (cs : List Char) {rest : List Char} (hrest : rest.head? ≠ some '"') :
    after? ['"', '"', '"'] ('"' :: (Quoted.escape '"' cs ++ '"' :: rest)) = none := by
  rw [after?, if_pos rfl]
  cases cs with
  | nil =>
      cases rest with
      | nil => rfl
      | cons d rest =>
          have hd : '"' ≠ d := fun heq => hrest (by rw [← heq, List.head?_cons])
          simp [Quoted.escape, after?, hd]
  | cons c cs =>
      by_cases hc : c = '\\' ∨ c = '"'
      · rw [escape_cons_of_special hc]
        rfl
      · rw [escape_cons_of_not_special hc, List.cons_append, after?,
          if_neg fun heq => hc (.inr heq.symm)]

theorem toList_quoted_append (v : String) (rest : List Char) :
    (quoted v).toList ++ rest = '"' :: (Quoted.escape '"' v.toList ++ '"' :: rest) := by
  simp [quoted, Quoted.write]

/-- The literal for a text is a plain literal for it exactly if the text is plain. -/
theorem literal?_quoted (v : String) {rest : List Char} (hrest : rest.head? ≠ some '"') :
    a.literal? ((quoted v).toList ++ rest) =
      if a.isPlain v.toList then some (v.toList, rest) else none := by
  rw [toList_quoted_append, literal?, after?_three_quotes _ hrest, after?, if_pos rfl, after?_nil]
  exact a.content?_escape v.toList rest

/-- Whatever follows it, the literal for a text that is not plain is no plain literal. -/
theorem isPlain_of_literal? {v : String} {rest : List Char} {found : List Char × List Char}
    (h : a.literal? ((quoted v).toList ++ rest) = some found) : a.isPlain v.toList = true := by
  rw [toList_quoted_append, literal?] at h
  split at h
  · cases h
  · rw [after?, if_pos rfl, after?_nil, Option.bind_some, a.content?_escape] at h
    split at h
    · assumption
    · cases h

end Alphabet

/-- Names that begin with an ASCII letter or an underscore. -/
def ascii : Alphabet where
  begins c := isAsciiLetter c || c == '_'
  letter c hc := by rw [hc, Bool.true_or]
  underscore := by decide
  quote := by decide
  backslash := by decide

/-- A dollar sign counts only before a name or a brace, and not if it is escaped. -/
example : (ascii.isPlain "US$ 5".toList, ascii.isPlain "$filter".toList) = (true, false) ∧
    ascii.literal? "\"\\$\\u0066\") id".toList = some ("$f".toList, ") id".toList) := by
  decide +kernel

end SpecForge.Kotlin
