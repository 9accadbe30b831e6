import Mathlib.Data.List.TakeWhile
import SpecForge.Decimal.Written

/-!
# Forms of numbers

The text of a number is a literal of one of two forms: a row of digits by itself, or one with a
point or an exponent behind it. Whole numbers are spelled in the first form and finite doubles in
the second one. The other doubles have names, and these are no literals.
-/

namespace SpecForge.Decimal

/-! ## The reader -/

/-- The forms of literals of numbers. -/
inductive Form where
  | whole
  | decimal
deriving DecidableEq, Repr

/-- Are these digits, and at least one? -/
def isRow (cs : List Char) : Bool := !cs.isEmpty && cs.all Char.isDigit

/-- Is this nothing, or an exponent with its sign? -/
def isExponent : List Char → Bool
  | [] => true
  | 'e' :: '+' :: cs => isRow cs
  | 'e' :: '-' :: cs => isRow cs
  | _ => false

/-- The form of a literal, by what stands behind the first row of digits. -/
def formBehind? : List Char → Option Form
  | [] => some .whole
  | '.' :: cs =>
    if isRow (cs.takeWhile Char.isDigit) && isExponent (cs.dropWhile Char.isDigit) then
      some .decimal
    else none
  | cs => if isExponent cs then some .decimal else none

/-- The form of a literal without a sign. -/
def unsignedForm? (cs : List Char) : Option Form :=
  if isRow (cs.takeWhile Char.isDigit) then formBehind? (cs.dropWhile Char.isDigit) else none

/-- The form of a literal, which may have a sign. -/
def form? : List Char → Option Form
  | '-' :: cs => unsignedForm? cs
  | cs => unsignedForm? cs

/-! ## Rows of digits -/

theorem isRow_iff {cs : List Char} : isRow cs = true ↔ cs ≠ [] ∧ ∀ c ∈ cs, c.isDigit = true := by
  simp [isRow]

theorem isRow_toDigits (n : Nat) : isRow (Nat.toDigits 10 n) = true :=
  isRow_iff.2 ⟨Nat.toDigits_ne_nil, fun _ => Nat.isDigit_of_mem_toDigits (by decide) (by decide)⟩

theorem isRow_toString (n : Nat) : isRow (toString n).toList = true := by
  rw [Nat.toString_eq_repr, Nat.toList_repr]
  exact isRow_toDigits n

theorem isDigit_of_mem_zeros {k : Nat} {c : Char} (h : c ∈ List.replicate k '0') :
    c.isDigit = true := by
  rw [List.eq_of_mem_replicate h]
  rfl

/-- Reading stops behind a row of digits if no digit follows. -/
theorem takeWhile_row {row rest : List Char} (hrow : isRow row = true)
    (hrest : ∀ c, rest.head? = some c → c.isDigit = false) :
    (row ++ rest).takeWhile Char.isDigit = row ∧ (row ++ rest).dropWhile Char.isDigit = rest := by
  have hdigits := (isRow_iff.1 hrow).2
  rw [List.takeWhile_append_of_pos hdigits, List.dropWhile_append_of_pos hdigits]
  cases rest with
  | nil => simp
  | cons c cs =>
      have hc := hrest c rfl
      simp [hc]

theorem unsignedForm?_append {row rest : List Char} (hrow : isRow row = true)
    (hrest : ∀ c, rest.head? = some c → c.isDigit = false) :
    unsignedForm? (row ++ rest) = formBehind? rest := by
  obtain ⟨htake, hdrop⟩ := takeWhile_row hrow hrest
  rw [unsignedForm?, htake, hdrop, if_pos hrow]

theorem unsignedForm?_row {row : List Char} (hrow : isRow row = true) :
    unsignedForm? row = some .whole := by
  have h : unsignedForm? (row ++ []) = formBehind? [] := unsignedForm?_append hrow (by simp)
  rwa [List.append_nil] at h

/-- Two rows of digits with a point between them, and an exponent or nothing behind them. -/
theorem unsignedForm?_point {row fraction exponent : List Char} (hrow : isRow row = true)
    (hfraction : isRow fraction = true) (hexponent : isExponent exponent = true) :
    unsignedForm? (row ++ '.' :: (fraction ++ exponent)) = some .decimal := by
  have hstop : ∀ c, exponent.head? = some c → c.isDigit = false := by
    intro c hc
    cases exponent with
    | nil => cases hc
    | cons d ds =>
        cases hc
        unfold isExponent at hexponent
        split at hexponent <;> simp_all
  obtain ⟨htake, hdrop⟩ := takeWhile_row hfraction hstop
  rw [unsignedForm?_append hrow (by simp), formBehind?, htake, hdrop, hfraction, hexponent]
  rfl

/-- A row of digits with an exponent behind it. -/
theorem unsignedForm?_exponent {row exponent : List Char} (hrow : isRow row = true)
    (hexponent : isExponent ('e' :: exponent) = true) :
    unsignedForm? (row ++ 'e' :: exponent) = some .decimal := by
  rw [unsignedForm?_append hrow (by simp), formBehind?, if_pos hexponent]
  · simp
  · simp

/-- A literal without a sign begins with a digit. -/
theorem head_of_unsignedForm? {cs : List Char} {form : Form} (h : unsignedForm? cs = some form) :
    ∃ c rest, cs = c :: rest ∧ c.isDigit = true := by
  rw [unsignedForm?] at h
  split at h
  · rename_i hrow
    cases cs with
    | nil => cases hrow
    | cons c cs =>
        refine ⟨c, cs, rfl, ?_⟩
        by_contra hc
        rw [List.takeWhile_cons_of_neg hc] at hrow
        cases hrow
  · cases h

theorem form?_of_unsignedForm? {cs : List Char} {form : Form} (h : unsignedForm? cs = some form) :
    form? cs = some form := by
  obtain ⟨c, rest, rfl, hc⟩ := head_of_unsignedForm? h
  rw [form?.eq_2 (c :: rest) fun cs hcs => ?_, h]
  rw [List.cons.injEq] at hcs
  rw [hcs.1] at hc
  cases hc

/-- A literal begins with a sign or a digit. -/
theorem head_of_form? {cs : List Char} {form : Form} (h : form? cs = some form) :
    ∃ c rest, cs = c :: rest ∧ (c = '-' ∨ c.isDigit = true) := by
  unfold form? at h
  split at h
  · exact ⟨'-', _, rfl, .inl rfl⟩
  · obtain ⟨c, rest, hcs, hc⟩ := head_of_unsignedForm? h
    exact ⟨c, rest, hcs, .inr hc⟩

/-! ## What numbers are spelled as -/

theorem toList_toString (n : Int) :
    (toString n).toList = (if n < 0 then ['-'] else []) ++ Nat.toDigits 10 n.natAbs := by
  rw [Int.toString_eq_repr, Int.repr_eq_if]
  by_cases hn : 0 ≤ n
  · have hsize : n.toNat = n.natAbs := by omega
    rw [if_pos hn, if_neg (by omega), hsize, Nat.toList_repr]
    rfl
  · have hsize : (-n).toNat = n.natAbs := by omega
    rw [if_neg hn, if_pos (by omega), hsize, String.toList_append, Nat.toList_repr]
    rfl

/-- A whole number is a row of digits behind its sign. -/
theorem exists_row_of_int (n : Int) : ∃ row, isRow row = true ∧
    ((toString n).toList = row ∨ (toString n).toList = '-' :: row) := by
  refine ⟨_, isRow_toDigits n.natAbs, ?_⟩
  rw [toList_toString]
  split
  · exact .inr rfl
  · exact .inl rfl

theorem form?_int (n : Int) : form? (toString n).toList = some .whole := by
  obtain ⟨row, hrow, h | h⟩ := exists_row_of_int n
  · rw [h, form?_of_unsignedForm? (unsignedForm?_row hrow)]
  · rw [h, form?, unsignedForm?_row hrow]

/-- With a point and a zero behind it, a whole number is spelled like a double. -/
theorem form?_int_point (n : Int) : form? (toString n ++ ".0").toList = some .decimal := by
  obtain ⟨row, hrow, h⟩ := exists_row_of_int n
  have hpoint : unsignedForm? (row ++ '.' :: (['0'] ++ [])) = some .decimal :=
    unsignedForm?_point hrow rfl rfl
  have hzero : ".0".toList = '.' :: (['0'] ++ []) := rfl
  rw [String.toList_append, hzero]
  rcases h with h | h
  · rw [h, form?_of_unsignedForm? hpoint]
  · rw [h, List.cons_append, form?, hpoint]

theorem isRow_zeroFilled (width n : Nat) : isRow (zeroFilled width n).toList = true := by
  obtain ⟨hne, hdigits⟩ := isRow_iff.1 (isRow_toString n)
  rw [isRow_iff, zeroFilled, String.toList_append, String.toList_ofList]
  exact ⟨List.append_ne_nil_of_right_ne_nil _ hne,
    fun c hc => (List.mem_append.1 hc).elim isDigit_of_mem_zeros (hdigits c)⟩

theorem isDigit_of_mem_significant {n : Nat} {c : Char} (hc : c ∈ significant n) :
    c.isDigit = true := by
  have hmem := (List.dropWhile_suffix _).subset (List.mem_reverse.1 hc)
  exact (isRow_iff.1 (isRow_toString n)).2 c (List.mem_reverse.1 hmem)

/-- A number other than zero has a digit other than zero. -/
theorem significant_ne_nil {n : Nat} (hn : n ≠ 0) : significant n ≠ [] := by
  intro h
  rw [significant, List.reverse_eq_nil_iff, List.dropWhile_eq_nil_iff] at h
  have hzeros : Nat.toDigits 10 n = List.replicate (Nat.toDigits 10 n).length '0' := by
    rw [List.eq_replicate_iff]
    refine ⟨rfl, fun c hc => ?_⟩
    have hmem : c ∈ (toString n).toList.reverse := by
      rwa [List.mem_reverse, Nat.toString_eq_repr, Nat.toList_repr]
    simpa using h c hmem
  have hvalue : ∀ k, Nat.ofDigitChars 10 (List.replicate k '0') 0 = 0 := by
    intro k
    induction k with
    | zero => rfl
    | succ k ih => exact ih
  exact hn (by rw [← Nat.ofDigitChars_ten_toDigits (n := n), hzeros, hvalue])

/-- A number near one is written with a point. Only one below ten may lack digits. -/
theorem unsignedForm?_positional {digits : List Char} (hdigits : ∀ c ∈ digits, c.isDigit = true)
    {point : Int} (hne : digits ≠ [] ∨ point = 1) :
    unsignedForm? (if point ≤ 0 then '0' :: '.' :: List.replicate (-point).toNat '0' ++ digits
      else if digits.length ≤ point then
        digits ++ List.replicate (point - digits.length).toNat '0' ++ ['.', '0']
      else digits.take point.toNat ++ '.' :: digits.drop point.toNat) = some .decimal := by
  have hpoint : ∀ {row fraction : List Char}, isRow row = true → isRow fraction = true →
      unsignedForm? (row ++ '.' :: fraction) = some .decimal := by
    intro row fraction hrow hfraction
    rw [← List.append_nil fraction]
    exact unsignedForm?_point hrow hfraction rfl
  split
  · have hzero : isRow ['0'] = true := rfl
    refine hpoint hzero (isRow_iff.2 ⟨?_, fun c hc => ?_⟩)
    · have hpoint : point ≠ 1 := by omega
      exact List.append_ne_nil_of_right_ne_nil _ (hne.resolve_right hpoint)
    · exact (List.mem_append.1 hc).elim isDigit_of_mem_zeros (hdigits c)
  · split
    · refine hpoint (isRow_iff.2 ⟨?_, fun c hc => ?_⟩) rfl
      · rw [Ne, ← List.length_eq_zero_iff, List.length_append, List.length_replicate]
        omega
      · exact (List.mem_append.1 hc).elim (hdigits c) isDigit_of_mem_zeros
    · refine hpoint (isRow_iff.2 ⟨?_, fun c hc => hdigits c (List.mem_of_mem_take hc)⟩)
        (isRow_iff.2 ⟨?_, fun c hc => hdigits c (List.mem_of_mem_drop hc)⟩)
      · rw [Ne, ← List.length_eq_zero_iff, List.length_take]
        omega
      · rw [Ne, ← List.length_eq_zero_iff, List.length_drop]
        omega

/-- A number far from one is written with one digit in front of the point, and with an exponent. -/
theorem unsignedForm?_scientific {digits exponent : List Char}
    (hdigits : ∀ c ∈ digits, c.isDigit = true) (hne : digits ≠ [])
    (hexponent : isExponent ('e' :: exponent) = true) :
    unsignedForm? (digits.take 1 ++ (if digits.length ≤ 1 then [] else '.' :: digits.drop 1) ++
      'e' :: exponent) = some .decimal := by
  obtain ⟨d, ds, rfl⟩ := List.exists_cons_of_ne_nil hne
  rw [List.forall_mem_cons] at hdigits
  have hd : isRow [d] = true :=
    isRow_iff.2 ⟨List.cons_ne_nil d [], List.forall_mem_singleton.2 hdigits.1⟩
  cases ds with
  | nil => exact unsignedForm?_exponent hd hexponent
  | cons d' ds =>
      have hfraction : isRow (d' :: ds) = true := isRow_iff.2 ⟨List.cons_ne_nil d' ds, hdigits.2⟩
      have h := unsignedForm?_point hd hfraction hexponent
      simpa using h

theorem isExponent_zeroFilled (width : Nat) (exponent : Int) :
    isExponent ('e' :: ((if exponent < 0 then "-" else "+") ++
      zeroFilled width exponent.natAbs).toList) = true := by
  have hfilled := isRow_zeroFilled width exponent.natAbs
  rw [String.toList_append]
  split <;> exact hfilled

/-- The text of a decimal has a point or an exponent. -/
theorem unsignedForm?_write {digits : List Char} (hdigits : ∀ c ∈ digits, c.isDigit = true)
    {point : Int} (hne : digits ≠ [] ∨ point = 1) :
    unsignedForm? (Layout.standard.write digits point).toList = some .decimal := by
  rw [Layout.write]
  dsimp only
  split
  · simp only [apply_ite String.toList, String.toList_ofList]
    exact unsignedForm?_positional hdigits hne
  · rename_i hfar
    have hdigits' : digits ≠ [] := by
      refine hne.resolve_right fun hone => hfar ?_
      rw [hone]
      decide
    have hscientific := unsignedForm?_scientific hdigits hdigits'
      (isExponent_zeroFilled Layout.standard.exponentDigits (point - 1))
    have htext : ∀ head : List Char, (String.ofList head ++ "e" ++
        (if point - 1 < 0 then "-" else "+") ++
        zeroFilled Layout.standard.exponentDigits (point - 1).natAbs).toList =
          head ++ 'e' :: ((if point - 1 < 0 then "-" else "+") ++
            zeroFilled Layout.standard.exponentDigits (point - 1).natAbs).toList := by
      simp
    rwa [htext]

/-- What is taken for a double reads back as it. -/
theorem ofDecimal_of_neighbour? {m : Nat} {e top : Int} {n : Nat} {d : Scientific}
    (h : neighbour? m e top n = some d) :
    Binary64.ofDecimal false d.digits d.exponent = .finite false m e := by
  have hpick : ∀ {near far : Nat} {place : Int},
      (if Binary64.ofDecimal false near place == .finite false m e then
        some (Scientific.mk near place)
      else if Binary64.ofDecimal false far place == .finite false m e then some ⟨far, place⟩
      else none) = some d →
        Binary64.ofDecimal false d.digits d.exponent = .finite false m e := by
    intro near far place h
    split at h
    · rename_i hnear
      cases h
      exact beq_iff_eq.1 hnear
    · split at h
      · rename_i hfar
        cases h
        exact beq_iff_eq.1 hfar
      · cases h
  unfold neighbour? at h
  dsimp only at h
  split at h
  · exact hpick h
  · exact hpick h

/-- The shortest decimal for a double other than zero is not zero, if there is any. -/
theorem shortest_cases {m : Nat} (hm : m ≠ 0) (e : Int) :
    (shortest m e).digits ≠ 0 ∨ shortest m e = ⟨0, 0⟩ := by
  rw [shortest]
  dsimp only
  generalize hfound : List.findSome? _ _ = found
  cases found with
  | none => exact .inr rfl
  | some d =>
      obtain ⟨n, _, hd⟩ := List.exists_of_findSome?_eq_some hfound
      have hreads := ofDecimal_of_neighbour? hd
      left
      intro hdigits
      change d.digits = 0 at hdigits
      rw [hdigits] at hreads
      cases hreads
      exact hm rfl

/-- A finite double has a point or an exponent. -/
theorem form?_finite (negative : Bool) (m : Nat) (e : Int) :
    form? (Binary64.finite negative m e).text.toList = some .decimal := by
  have hsigned : ∀ {text : String}, unsignedForm? text.toList = some .decimal →
      form? ((if negative then "-" else "") ++ text).toList = some .decimal := by
    intro text h
    cases negative with
    | false => exact form?_of_unsignedForm? (by simpa using h)
    | true => simpa [form?] using h
  rw [Binary64.text]
  dsimp only
  split
  · exact hsigned rfl
  · rename_i hm
    refine hsigned (unsignedForm?_write (fun c => isDigit_of_mem_significant) ?_)
    rcases shortest_cases (m := m) (by simpa using hm) e with hdigits | hnone
    · exact .inl (significant_ne_nil hdigits)
    · right
      rw [hnone]
      rfl

/-- Is the number finite? -/
def Binary64.isFinite : Binary64 → Bool
  | .finite _ _ _ => true
  | _ => false

/-- The names of the other doubles are no literals. -/
theorem form?_float (x : Binary64) :
    form? x.text.toList = if x.isFinite then some .decimal else none := by
  cases x with
  | nan => decide
  | infinite negative => cases negative <;> decide
  | finite negative m e => exact form?_finite negative m e

end SpecForge.Decimal
