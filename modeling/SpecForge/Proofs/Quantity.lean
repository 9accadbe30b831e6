import SpecForge.Proofs.Decimal.Exact
import SpecForge.Proofs.Decimal.Form
import SpecForge.Proofs.Name
import SpecForge.Proofs.Text.Blank
import SpecForge.Quantity

/-!
# Quantities that are written and read

A whole number is written as a sign and a row of digits, and the unit stands behind the last digit.
No character of a unit is a digit or a point, so the row ends where the unit begins, and a unit that
begins like an exponent is none. The double that the row is read as is the number itself, as long as
the number is not beyond two to the power 53.
-/

namespace SpecForge

open Decimal Text

/-! ## Rows of digits -/

/-- The value of a digit by its place behind the zero. -/
def digitValue (c : Char) : Nat := c.toNat - '0'.toNat

theorem digit_char {c : Char} (h : c.isDigit = true) :
    decimalValue? c = some (digitValue c) ∧ c ≠ '-' ∧ isBlank c = false := by
  have hascii : c.toNat < 128 := Nat.lt_of_le_of_lt (Char.isDigit_iff_toNat.1 h).2 (by decide)
  refine forall_ascii (P := fun c => c.isDigit = true →
    decimalValue? c = some (digitValue c) ∧ c ≠ '-' ∧ isBlank c = false) ?_ hascii h
  decide

namespace Decimal

/-- The digits are taken up to the first character that is none. -/
theorem takeDigits_append {digit? : Char → Option Nat} {value : Char → Nat} {row rest : List Char}
    (hrow : ∀ c ∈ row, digit? c = some (value c))
    (hrest : ∀ c, rest.head? = some c → digit? c = none) :
    takeDigits digit? (row ++ rest) = (row.map value, rest) := by
  induction row with
  | nil =>
      cases rest with
      | nil => rfl
      | cons c rest => rw [List.nil_append, takeDigits, hrest c rfl, List.map_nil]
  | cons c row ih =>
      rw [List.forall_mem_cons] at hrow
      rw [List.cons_append, takeDigits, hrow.1, ih hrow.2, List.map_cons]

theorem ofDigits_toDigits (n : Nat) : ofDigits 10 ((Nat.toDigits 10 n).map digitValue) = n := by
  rw [ofDigits, List.foldl_map]
  exact Nat.ofDigitChars_ten_toDigits

theorem withSign_natAbs (n : Int) : Binary64.withSign (n < 0) n.natAbs = n := by
  by_cases hn : n < 0
  · rw [Binary64.withSign, if_pos (decide_eq_true hn)]
    omega
  · rw [Binary64.withSign, if_neg (by rwa [decide_eq_true_iff])]
    omega

end Decimal

namespace Quantity

/-- A unit as it may be written: ASCII letters and percent signs. -/
def IsUnit (unit : List Char) : Prop := ∀ c ∈ unit, (isAsciiLetter c || c == '%') = true

instance (unit : List Char) : Decidable (IsUnit unit) :=
  List.decidableBAll (fun c => (isAsciiLetter c || c == '%') = true) unit

theorem unit_char {c : Char} (h : (isAsciiLetter c || c == '%') = true) :
    decimalValue? c = none ∧ c ≠ '.' ∧ isUnitChar c = true ∧ isBlank c = false := by
  have hascii : c.toNat < 128 := by
    rcases Bool.or_eq_true_iff.1 h with hletter | hpercent
    · exact Name.toNat_lt_of_isWordChar (by rw [Name.isWordChar, hletter]; rfl)
    · rw [beq_iff_eq.1 hpercent]
      decide
  refine forall_ascii (P := fun c => (isAsciiLetter c || c == '%') = true →
    decimalValue? c = none ∧ c ≠ '.' ∧ isUnitChar c = true ∧ isBlank c = false) ?_ hascii h
  decide

/-- The row ends where the unit begins, with neither a point nor an exponent between them. -/
theorem unsigned?_append {row unit : List Char} (hrow : isRow row = true) (hunit : IsUnit unit) :
    unsigned? (row ++ unit) = some (row.map digitValue, [], unit) := by
  obtain ⟨hne, hdigits⟩ := isRow_iff.1 hrow
  have htake : takeDigits decimalValue? (row ++ unit) = (row.map digitValue, unit) :=
    takeDigits_append (fun c hc => (digit_char (hdigits c hc)).1) fun c hc =>
      (unit_char (hunit c (List.mem_of_mem_head? hc))).1
  obtain ⟨c, row, rfl⟩ := List.exists_cons_of_ne_nil hne
  rw [unsigned?, htake, List.map_cons]
  cases unit with
  | nil => rfl
  | cons d unit =>
      have hpoint : d ≠ '.' := (unit_char (hunit d List.mem_cons_self)).2.1
      split
      · rename_i h
        cases (Prod.mk.inj h).1
      · rename_i h
        cases (Prod.mk.inj h).1
      · rename_i h
        exact absurd (List.cons.inj (Prod.mk.inj h).2).1 hpoint
      · rename_i h
        cases h
        rfl

theorem numberOf_toDigits (negative : Bool) {n : Nat} (hn : n ≤ 2 ^ 53) :
    numberOf ⟨negative, (Nat.toDigits 10 n).map digitValue, [], 0⟩ =
      .int (Binary64.withSign negative n) := by
  have hfloat : Numeral.toFloat ⟨negative, (Nat.toDigits 10 n).map digitValue, [], 0⟩ =
      Binary64.ofDecimal negative n 0 := by
    rw [Numeral.toFloat, List.append_nil, ofDigits_toDigits]
    rfl
  rw [numberOf, hfloat, Number.normalize, Binary64.toInt?_ofDecimal negative hn]

/-- The row of digits is read as the number, with the sign in front of it. -/
theorem numeral?_append (negative : Bool) (n : Nat) {unit : List Char} (hunit : IsUnit unit) :
    numeral? negative (Nat.toDigits 10 n ++ unit) =
      some (⟨negative, (Nat.toDigits 10 n).map digitValue, [], 0⟩, unit) := by
  rw [numeral?, unsigned?_append (isRow_toDigits n) hunit]
  rfl

/-- A sign and a row of digits are told apart by the first character. -/
theorem withUnit?_eq (n : Int) {unit : List Char} (hunit : IsUnit unit) :
    withUnit? ((toString n).toList ++ unit) =
      some ⟨numberOf ⟨n < 0, (Nat.toDigits 10 n.natAbs).map digitValue, [], 0⟩,
        if unit.isEmpty then pixel else String.ofList unit⟩ := by
  have hchars : unit.all isUnitChar = true :=
    List.all_eq_true.2 fun c hc => (unit_char (hunit c hc)).2.2.1
  have hnumeral := numeral?_append (n < 0) n.natAbs hunit
  rw [toList_toString]
  by_cases hn : n < 0
  · rw [decide_eq_true hn] at hnumeral ⊢
    rw [if_pos hn, List.append_assoc, List.singleton_append, withUnit?, hnumeral]
    exact if_pos hchars
  · rw [decide_eq_false hn] at hnumeral ⊢
    rw [if_neg hn, List.nil_append, withUnit?.eq_def]
    split
    · -- a row of digits does not begin with a sign
      rename_i rest hsign
      obtain ⟨hne, hdigits⟩ := isRow_iff.1 (isRow_toDigits n.natAbs)
      obtain ⟨c, row, hrow⟩ := List.exists_cons_of_ne_nil hne
      have hc : c.isDigit = true := hdigits c (hrow ▸ List.mem_cons_self)
      rw [hrow, List.cons_append] at hsign
      exact absurd (List.cons.inj hsign).1 (digit_char hc).2.1
    · rw [hnumeral]
      exact if_pos hchars

theorem not_isBlank {n : Int} {unit : List Char} (hunit : IsUnit unit) :
    ∀ c ∈ (toString n).toList ++ unit, isBlank c = false := by
  intro c hc
  rcases List.mem_append.1 hc with hnumber | hc
  · rw [toList_toString] at hnumber
    rcases List.mem_append.1 hnumber with hsign | hdigit
    · split at hsign
      · rw [List.mem_singleton.1 hsign]
        decide
      · cases hsign
    · exact (digit_char ((isRow_iff.1 (isRow_toDigits n.natAbs)).2 c hdigit)).2.2
  · exact (unit_char (hunit c hc)).2.2.2

theorem ofValue_str (s : String) : ofValue (.str s) = .ok (ofText s) := rfl

/-- A whole number with its unit is read as this number and this unit, whatever white space stands
around it. Without a unit it is a number of pixels. -/
theorem ofValue_withUnit {n : Int} (hn : n.natAbs ≤ 2 ^ 53) {unit : String}
    (hunit : IsUnit unit.toList) {before after : List Char}
    (hbefore : ∀ c ∈ before, isBlank c = true) (hafter : ∀ c ∈ after, isBlank c = true) :
    ofValue (.str (String.ofList before ++ (Value.int n).withUnit unit ++ String.ofList after)) =
      .ok ⟨.int n, if unit = "" then "px" else unit⟩ := by
  have htext : ((Value.int n).withUnit unit).toList = (toString n).toList ++ unit.toList :=
    String.toList_append
  have htrim : trim isBlank (String.ofList before ++ (Value.int n).withUnit unit ++
      String.ofList after).toList = (toString n).toList ++ unit.toList := by
    rw [String.toList_append, String.toList_append, String.toList_ofList, String.toList_ofList,
      trim_append_right _ hafter, trim_append_left hbefore, htext, trim_eq_self (not_isBlank hunit)]
  have hnumber : numberOf ⟨n < 0, (Nat.toDigits 10 n.natAbs).map digitValue, [], 0⟩ = .int n := by
    rw [numberOf_toDigits _ hn, withSign_natAbs]
  have hunits : (if unit.toList.isEmpty then pixel else String.ofList unit.toList) =
      if unit = "" then "px" else unit := by
    rw [String.ofList_toList]
    by_cases hempty : unit = ""
    · rw [if_pos hempty, hempty]
      rfl
    · rw [if_neg hempty, if_neg]
      rwa [List.isEmpty_iff, String.toList_eq_nil_iff]
  rw [ofValue_str, ofText, htrim, withUnit?_eq n hunit, hnumber, hunits]
  rfl

/-- The greatest size, a unit that begins like an exponent, and white space of two kinds. -/
theorem ofValue_withUnit_exponent :
    ofValue (.str " \t-9007199254740992e\u00a0") = .ok ⟨.int (-9007199254740992), "e"⟩ := by
  have hsize : (-9007199254740992 : Int).natAbs ≤ 2 ^ 53 := by decide
  have hunit : IsUnit "e".toList := by decide
  have hbefore : ∀ c ∈ [' ', '\t'], isBlank c = true := List.all_eq_true.1 (by decide)
  have hafter : ∀ c ∈ ['\u00a0'], isBlank c = true := List.all_eq_true.1 (by decide)
  have htext : String.ofList [' ', '\t'] ++ (Value.int (-9007199254740992)).withUnit "e" ++
      String.ofList ['\u00a0'] = " \t-9007199254740992e\u00a0" := by decide +kernel
  have hread := ofValue_withUnit hsize hunit hbefore hafter
  rw [htext, if_neg (by decide)] at hread
  exact hread

end Quantity

end SpecForge
