import Mathlib.Algebra.Order.Field.Power
import Mathlib.Algebra.Order.Field.Rat
import Mathlib.Tactic.NormNum
import Mathlib.Tactic.Positivity
import SpecForge.Decimal.Tolerant

/-!
# Numbers in their range

A double that comes from rounding has a mantissa and an exponent in their range. So its whole part
is far from having too many digits, and the same goes for whatever is read from a row of digits that
is not too long. What can be read can also be spelled.
-/

namespace SpecForge.Decimal

/-! ## Rows of digits -/

theorem foldl_digits_lt {base : Nat} {ds : List Nat} (hds : ∀ d ∈ ds, d < base) (n : Nat) :
    ds.foldl (fun n d => base * n + d) n < (n + 1) * base ^ ds.length := by
  induction ds generalizing n with
  | nil => simp
  | cons d ds ih =>
      rw [List.forall_mem_cons] at hds
      have hstep : base * n + d + 1 ≤ (n + 1) * base := by
        rw [Nat.add_mul, Nat.one_mul, Nat.mul_comm n base]
        omega
      calc ds.foldl (fun n d => base * n + d) (base * n + d)
          < (base * n + d + 1) * base ^ ds.length := ih hds.2 _
        _ ≤ (n + 1) * base * base ^ ds.length := Nat.mul_le_mul_right _ hstep
        _ = (n + 1) * base ^ (d :: ds).length := by
            rw [List.length_cons, Nat.pow_succ, Nat.mul_assoc, Nat.mul_comm base]

theorem ofDigits_lt {base : Nat} {ds : List Nat} (hds : ∀ d ∈ ds, d < base) :
    ofDigits base ds < base ^ ds.length := by
  have h := foldl_digits_lt hds 0
  rwa [Nat.zero_add, Nat.one_mul] at h

theorem pow_le_unspelledFrom {k : Nat} (hk : k ≤ digitLimit) : Nat.pow 10 k ≤ unspelledFrom := by
  unfold unspelledFrom
  generalize digitLimit = limit at hk ⊢
  exact Nat.pow_le_pow_right (by decide) hk

theorem isSpellable_iff {n : Int} : isSpellable n = true ↔ n.natAbs < unspelledFrom := by
  rw [isSpellable, decide_eq_true_iff]

/-- A row of digits that is not too long writes a number that can be spelled. -/
theorem isSpellable_ofDigits {ds : List Nat} (hds : ∀ d ∈ ds, d < 10)
    (hlength : ds.length ≤ digitLimit) : isSpellable ((ofDigits 10 ds : Nat) : Int) = true := by
  rw [isSpellable_iff, Int.natAbs_natCast]
  exact Nat.lt_of_lt_of_le (ofDigits_lt hds) (pow_le_unspelledFrom hlength)

theorem isSpellable_neg {n : Int} : isSpellable (-n) = isSpellable n := by
  rw [isSpellable, isSpellable, Int.natAbs_neg]

/-! ## Doubles -/

theorem roundDiv_le (num den : Nat) : roundDiv num den ≤ num / den + 1 := by
  rw [roundDiv]
  split
  · omega
  · split
    · omega
    · split <;> omega

/-- Scaling down divides by a power of two. -/
theorem ratio_scaleDown (num den : Nat) (e : Int) :
    ((scaleDown num den e).1 : ℚ) / (scaleDown num den e).2 = (num : ℚ) / den / 2 ^ e := by
  rw [scaleDown]
  split
  · rename_i h
    have he : e = -((e.natAbs : Nat) : Int) := by omega
    have hpow : (2 : ℚ) ^ e = (2 ^ e.natAbs)⁻¹ := by
      conv_lhs => rw [he]
      rw [zpow_neg, zpow_natCast]
    rw [hpow, div_inv_eq_mul, Nat.pow_eq, Nat.cast_mul, Nat.cast_pow, Nat.cast_ofNat]
    exact mul_div_right_comm _ _ _
  · rename_i h
    have he : e = ((e.natAbs : Nat) : Int) := by omega
    have hpow : (2 : ℚ) ^ e = 2 ^ e.natAbs := by
      conv_lhs => rw [he]
      rw [zpow_natCast]
    rw [hpow, Nat.pow_eq, Nat.cast_mul, Nat.cast_pow, Nat.cast_ofNat, div_div]

theorem pos_scaleDown (num : Nat) {den : Nat} (hden : 0 < den) (e : Int) :
    0 < (scaleDown num den e).2 := by
  rw [scaleDown]
  split
  · exact hden
  · exact Nat.mul_pos hden (Nat.pow_pos (by decide))

theorem lt_two_zpow_log2 (num : Nat) : (num : ℚ) < 2 ^ ((num.log2 : Int) + 1) := by
  have h : num < 2 ^ (num.log2 + 1) := Nat.lt_log2_self
  calc (num : ℚ) < ((2 ^ (num.log2 + 1) : Nat) : ℚ) := by exact_mod_cast h
    _ = 2 ^ ((num.log2 : Int) + 1) := by
        rw [Nat.cast_pow, Nat.cast_ofNat, ← zpow_natCast, Nat.cast_add, Nat.cast_one]

theorem two_zpow_log2_le {den : Nat} (hden : 0 < den) : (2 : ℚ) ^ (den.log2 : Int) ≤ den := by
  have h : 2 ^ den.log2 ≤ den := Nat.log2_self_le hden.ne'
  rw [zpow_natCast]
  exact_mod_cast h

/-- The quotient is below twice the power of two that is at or below it. -/
theorem lt_two_zpow_floorLog2 {num den : Nat} (hden : 0 < den) :
    (num : ℚ) / den < 2 ^ (floorLog2 num den + 1) := by
  have hcast : (0 : ℚ) < den := by exact_mod_cast hden
  rw [floorLog2]
  dsimp only
  split
  · rename_i h
    have hpos := pos_scaleDown num hden ((num.log2 : Int) - (den.log2 : Int))
    have hone : ((scaleDown num den ((num.log2 : Int) - (den.log2 : Int))).1 : ℚ) /
        (scaleDown num den ((num.log2 : Int) - (den.log2 : Int))).2 < 1 := by
      rw [div_lt_one (by exact_mod_cast hpos)]
      exact_mod_cast h
    rw [ratio_scaleDown, div_lt_one (by positivity)] at hone
    rwa [sub_add_cancel]
  · have hsplit : (num.log2 : Int) - (den.log2 : Int) + 1 = (num.log2 : Int) + 1 - den.log2 := by
      omega
    rw [hsplit, zpow_sub₀ (by norm_num), div_lt_div_iff₀ hcast (by positivity)]
    calc (num : ℚ) * 2 ^ (den.log2 : Int) ≤ num * den :=
          mul_le_mul_of_nonneg_left (two_zpow_log2_le hden) (Nat.cast_nonneg num)
      _ < 2 ^ ((num.log2 : Int) + 1) * den :=
          mul_lt_mul_of_pos_right (lt_two_zpow_log2 num) hcast

namespace Binary64

/-- Is the number one that a double can be? -/
def IsDouble : Binary64 → Prop
  | .finite _ m e => m < mantissaBound ∧ leastExponent ≤ e ∧ e ≤ greatestExponent
  | _ => True

theorem roundDiv_scaleDown_le {num den : Nat} (hden : 0 < den) {e : Int}
    (he : floorLog2 num den - 52 ≤ e) :
    roundDiv (scaleDown num den e).1 (scaleDown num den e).2 ≤ mantissaBound := by
  have hpos := pos_scaleDown num hden e
  have hbound : (2 : ℚ) ^ (53 : Int) = (mantissaBound : Nat) := by
    norm_num [mantissaBound]
  have hratio : ((scaleDown num den e).1 : ℚ) / (scaleDown num den e).2 < mantissaBound := by
    rw [ratio_scaleDown, div_lt_iff₀ (by positivity), ← hbound, ← zpow_add₀ (by norm_num)]
    refine (lt_two_zpow_floorLog2 hden).trans_le (zpow_le_zpow_right₀ (by norm_num) ?_)
    omega
  have hlt : (scaleDown num den e).1 < mantissaBound * (scaleDown num den e).2 := by
    rw [div_lt_iff₀ (by exact_mod_cast hpos)] at hratio
    exact_mod_cast hratio
  have hdiv : (scaleDown num den e).1 / (scaleDown num den e).2 < mantissaBound :=
    (Nat.div_lt_iff_lt_mul hpos).2 hlt
  exact (roundDiv_le _ _).trans hdiv

/-- Rounding gives a double. -/
theorem isDouble_ofRatio (negative : Bool) (num : Nat) {den : Nat} (hden : 0 < den) :
    (ofRatio negative num den).IsDouble := by
  rw [ofRatio]
  split
  · exact ⟨by decide, by decide, by decide⟩
  · dsimp only
    have hround := roundDiv_scaleDown_le hden (le_max_left (floorLog2 num den - 52) leastExponent)
    have hleast := le_max_right (floorLog2 num den - 52) leastExponent
    generalize max (floorLog2 num den - 52) leastExponent = e at hround hleast ⊢
    generalize roundDiv (scaleDown num den e).1 (scaleDown num den e).2 = m at hround ⊢
    split
    · -- the mantissa is rounded up to the bound, and halved
      dsimp only
      split
      · trivial
      · exact ⟨by decide, by omega, by omega⟩
    · rename_i hne
      dsimp only
      split
      · trivial
      · rw [beq_iff_eq] at hne
        exact ⟨by omega, hleast, by omega⟩

theorem isDouble_ofDecimal (negative : Bool) (digits : Nat) (e : Int) :
    (ofDecimal negative digits e).IsDouble := by
  have hzero : (zero negative).IsDouble := ⟨by decide, by decide, by decide⟩
  rw [ofDecimal]
  split
  · exact hzero
  · split
    · trivial
    · split
      · exact hzero
      · split
        · exact isDouble_ofRatio negative digits (Nat.pow_pos (by decide))
        · exact isDouble_ofRatio negative _ (by decide)

theorem mul_two_pow_lt_unspelledFrom {m a k b : Nat} (hm : m < 2 ^ a) (hk : k ≤ b)
    (hab : a + b ≤ digitLimit) : m * 2 ^ k < unspelledFrom :=
  calc m * 2 ^ k < 2 ^ a * 2 ^ k := Nat.mul_lt_mul_of_pos_right hm (Nat.pow_pos (by decide))
    _ ≤ 2 ^ a * 2 ^ b := Nat.mul_le_mul_left _ (Nat.pow_le_pow_right (by decide) hk)
    _ = 2 ^ (a + b) := (Nat.pow_add 2 a b).symm
    _ ≤ 10 ^ (a + b) := Nat.pow_le_pow_left (by decide) _
    _ ≤ unspelledFrom := pow_le_unspelledFrom hab

/-- The whole part of a double has far fewer digits than it may have. -/
theorem ratio_lt_unspelledFrom {m : Nat} {e : Int} (hm : m < mantissaBound)
    (he : e ≤ greatestExponent) : (ratio m e).1 / (ratio m e).2 < unspelledFrom := by
  have hbound : m < 2 ^ 53 := hm
  rw [ratio]
  split
  · have hlt : m * 2 ^ 0 < unspelledFrom :=
      mul_two_pow_lt_unspelledFrom hbound (Nat.le_refl 0) (by decide)
    rw [Nat.pow_zero, Nat.mul_one] at hlt
    exact Nat.lt_of_le_of_lt (Nat.div_le_self _ _) hlt
  · have hexponent : e.natAbs ≤ 971 := by
      rw [greatestExponent] at he
      omega
    rw [Nat.div_one]
    exact mul_two_pow_lt_unspelledFrom hbound hexponent (by decide)

/-- The whole part of a double can be spelled. -/
theorem IsDouble.isSpellable_of_truncate {x : Binary64} (hx : x.IsDouble) {n : Int}
    (h : x.truncate? = some n) : isSpellable n = true := by
  cases x with
  | nan => cases h
  | infinite negative => cases h
  | finite negative m e =>
      have hlt := ratio_lt_unspelledFrom hx.1 hx.2.2
      rw [truncate?] at h
      dsimp only at h
      cases h
      split
      · rw [isSpellable_neg, isSpellable_iff]
        exact hlt
      · rw [isSpellable_iff]
        exact hlt

theorem truncate_of_toInt {x : Binary64} {n : Int} (h : x.toInt? = some n) :
    x.truncate? = some n := by
  cases x with
  | nan => cases h
  | infinite negative => cases h
  | finite negative m e =>
      rw [toInt?] at h
      dsimp only at h
      split at h
      · exact h
      · cases h

end Binary64

namespace Number

/-- Is the number one that a document can hold and that can be spelled again? -/
def IsPlain : Number → Prop
  | .int n => Decimal.isSpellable n = true
  | .float x => x.IsDouble

theorem IsPlain.isSpellable {n : Number} (h : n.IsPlain) : n.isSpellable = true := by
  cases n with
  | int n => exact h
  | float x => rfl

theorem IsPlain.normalize {n : Number} (h : n.IsPlain) : n.normalize.IsPlain := by
  cases n with
  | int n => exact h
  | float x =>
      rw [Number.normalize]
      split
      · rename_i n hn
        exact Binary64.IsDouble.isSpellable_of_truncate h (Binary64.truncate_of_toInt hn)
      · exact h

end Number

/-! ## Numbers in texts -/

theorem asciiDigit?_lt {c : Char} {d : Nat} (h : Text.asciiDigit? c = some d) : d < 10 := by
  rw [Text.asciiDigit?] at h
  split at h
  · rename_i hc
    cases h
    rw [Bool.and_eq_true, decide_eq_true_iff, decide_eq_true_iff] at hc
    have hle : c.toNat ≤ '9'.toNat := hc.2
    have hnine : '9'.toNat = 57 := rfl
    have hzero : '0'.toNat = 48 := rfl
    omega
  · cases h

theorem decimalValue?_lt {c : Char} {d : Nat} (h : Text.decimalValue? c = some d) : d < 10 := by
  rw [Text.decimalValue?, Option.map_eq_some_iff] at h
  obtain ⟨r, _, rfl⟩ := h
  exact Nat.mod_lt _ (by decide)

theorem lt_of_mapM_eq_some {digit? : Char → Option Nat} (hdigit : ∀ c d, digit? c = some d → d < 10)
    {cs : List Char} {ds : List Nat} (h : cs.mapM digit? = some ds) : ∀ d ∈ ds, d < 10 := by
  induction cs generalizing ds with
  | nil =>
      cases h
      exact fun d hd => absurd hd List.not_mem_nil
  | cons c cs ih =>
      rw [List.mapM_cons, Option.bind_eq_bind, Option.bind_eq_some_iff] at h
      obtain ⟨d, hd, h⟩ := h
      rw [Option.bind_eq_bind, Option.bind_eq_some_iff] at h
      obtain ⟨ds', hds', h⟩ := h
      cases h
      rw [List.forall_mem_cons]
      exact ⟨hdigit c d hd, ih hds'⟩

namespace Tolerant

theorem isSpellable_of_natural? {cs : List Char} {n : Nat} (h : natural? cs = some n) :
    isSpellable (n : Int) = true := by
  rw [natural?, Option.bind_eq_bind, Option.bind_eq_some_iff] at h
  obtain ⟨ds, hds, h⟩ := h
  split at h
  · cases h
  · rename_i hlimit
    cases h
    simp only [Bool.or_eq_true, decide_eq_true_iff, not_or, Nat.not_lt] at hlimit
    exact isSpellable_ofDigits (lt_of_mapM_eq_some (fun _ _ => asciiDigit?_lt) hds) hlimit.2

theorem isSpellable_of_cast {cs : List Char} {n : Int}
    (h : ((natural? cs).bind fun a => some (a : Int)) = some n) : isSpellable n = true := by
  obtain ⟨k, hk, h⟩ := Option.bind_eq_some_iff.1 h
  cases h
  exact isSpellable_of_natural? hk

theorem isSpellable_of_unsigned? {negative : Bool} {cs : List Char} {n : Int}
    (h : unsigned? negative cs = some n) : isSpellable n = true := by
  rw [unsigned?] at h
  simp only [Option.bind_eq_bind, Option.bind_eq_some_iff] at h
  obtain ⟨_, _, _, _, cs', _, h⟩ := h
  split at h
  · split at h
    · cases h
    · obtain ⟨k, hk, rfl⟩ := Option.map_eq_some_iff.1 h
      rw [isSpellable_neg]
      exact isSpellable_of_cast hk
  · obtain ⟨k, hk, rfl⟩ := Option.map_eq_some_iff.1 h
    split
    · rw [isSpellable_neg]
      exact isSpellable_of_cast hk
    · exact isSpellable_of_cast hk

theorem isSpellable_of_whole? {cs : List Char} {n : Int} (h : whole? cs = some n) :
    isSpellable n = true := by
  rw [whole?.eq_def] at h
  split at h
  · cases h
  · exact isSpellable_of_unsigned? h

end Tolerant

theorem isDouble_of_floatNumeral? {cs : List Char} {x : Binary64} (h : floatNumeral? cs = some x) :
    x.IsDouble := by
  rw [floatNumeral?] at h
  dsimp only at h
  split at h
  · cases h
    trivial
  · split at h
    · cases h
      trivial
    · split at h
      -- with a point and without one
      all_goals
        split at h
        · cases h
        · cases h
          exact Binary64.isDouble_ofDecimal _ _ _

/-- Whatever number a text writes can be spelled again. -/
theorem Tolerant.isPlain_of_number? {s : String} {n : Number} (h : number? s = some n) :
    n.IsPlain := by
  rw [number?] at h
  dsimp only at h
  split at h
  · rename_i k hk
    cases h
    exact isSpellable_of_whole? hk
  · obtain ⟨x, hx, rfl⟩ := Option.map_eq_some_iff.1 h
    cases hspaced : floatNumeral? (Text.trim Text.isWhiteSpace s.toList) with
    | some y =>
        rw [hspaced] at hx
        cases hx
        exact isDouble_of_floatNumeral? hspaced
    | none =>
        rw [hspaced] at hx
        obtain ⟨cs, _, hcs⟩ := Option.bind_eq_some_iff.1 hx
        exact isDouble_of_floatNumeral? hcs

end SpecForge.Decimal
