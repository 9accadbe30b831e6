import Mathlib.Data.List.DropRight
import SpecForge.Text.Blank

/-!
# Cutting off at the ends

What is cut off at the ends of a text does not matter to what is left, and nothing is cut off behind
the first character that stays and before the last one.
-/

namespace SpecForge.Text

variable {p : Char → Bool}

theorem trim_append_left {head : List Char} (h : ∀ c ∈ head, p c = true) (cs : List Char) :
    trim p (head ++ cs) = trim p cs := by
  rw [trim, List.dropWhile_append_of_pos h, trim]

/-- Also where there is nothing else. -/
theorem trim_append_right (cs : List Char) {tail : List Char} (h : ∀ c ∈ tail, p c = true) :
    trim p (cs ++ tail) = trim p cs := by
  rw [trim, trim, List.dropWhile_append]
  split
  · rename_i hempty
    rw [List.isEmpty_iff.1 hempty, List.dropWhile_eq_nil_iff.2 h]
  · rw [List.reverse_append,
      List.dropWhile_append_of_pos fun c hc => h c (List.mem_reverse.1 hc)]

theorem trim_dropWhile (cs : List Char) : trim p (cs.dropWhile p) = trim p cs := by
  have hcut := trim_append_left (List.all_eq_true.1 (List.all_takeWhile (l := cs) (p := p)))
    (cs.dropWhile p)
  rw [List.takeWhile_append_dropWhile] at hcut
  exact hcut.symm

/-- Nothing is cut off behind a character that stays. -/
theorem dropWhile_append_stop (u : List Char) {x : Char} (hx : p x = false) (v : List Char) :
    (u ++ x :: v).dropWhile p = u.dropWhile p ++ x :: v := by
  have hstop : (x :: v).dropWhile p = x :: v :=
    List.dropWhile_cons_of_neg (by rw [hx]; decide)
  rw [List.dropWhile_append, hstop]
  split
  · rename_i hempty
    rw [List.isEmpty_iff.1 hempty, List.nil_append]
  · rfl

/-- A text that ends with a character that stays. -/
theorem trim_append_singleton (cs : List Char) {x : Char} (hx : p x = false) :
    trim p (cs ++ [x]) = cs.dropWhile p ++ [x] := by
  rw [trim, dropWhile_append_stop cs hx, List.reverse_append, List.reverse_singleton,
    List.singleton_append, List.dropWhile_cons_of_neg (by rw [hx]; decide), List.reverse_cons,
    List.reverse_reverse]

/-- Behind a character that stays, a text that was cut off is not cut off again. -/
theorem trim_cons_trim {x : Char} (hx : p x = false) (cs : List Char) :
    trim p (x :: trim p cs) = x :: trim p cs := by
  rw [trim.eq_1 p (x :: trim p cs), List.dropWhile_cons_of_neg (by rw [hx]; decide), trim,
    List.reverse_cons, List.reverse_reverse, dropWhile_append_stop _ hx, List.dropWhile_idempotent,
    List.reverse_append]
  rfl

theorem trim_eq_self {cs : List Char} (h : ∀ c ∈ cs, p c = false) : trim p cs = cs := by
  have hdrop : ∀ l : List Char, (∀ c ∈ l, p c = false) → l.dropWhile p = l := by
    intro l hl
    cases l with
    | nil => rfl
    | cons c l => exact List.dropWhile_cons_of_neg (by rw [hl c List.mem_cons_self]; decide)
  rw [trim, hdrop cs h, hdrop _ fun c hc => h c (List.mem_reverse.1 hc), List.reverse_reverse]

end SpecForge.Text
