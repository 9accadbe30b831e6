import Mathlib.Algebra.Group.Nat.Defs
import SpecForge.Decimal.Numeral

/-!
# Whole numbers that are doubles

A whole number of at most two to the power 53 is a double. A smaller one is scaled up to a full
mantissa without a rest, and the bound itself to half of a mantissa, with an exponent of one. So
what its digits are read as is the number again.
-/

namespace SpecForge.Decimal

/-! ## Rounding without a rest -/

theorem roundDiv_one (n : Nat) : roundDiv n 1 = n := by
  rw [roundDiv, Nat.mod_one, Nat.mul_zero, if_pos (by decide), Nat.div_one]

theorem floorLog2_one {n : Nat} (hn : n ≠ 0) : floorLog2 n 1 = n.log2 := by
  have hone : (1 : Nat).log2 = 0 := by decide
  have hbelow : ¬ n < 1 * Nat.pow 2 n.log2 := by
    rw [Nat.one_mul]
    exact Nat.not_lt.2 (Nat.log2_self_le hn)
  rw [floorLog2, hone, Int.natCast_zero, Int.sub_zero, scaleDown, if_neg (by omega),
    Int.natAbs_natCast]
  exact if_neg hbelow

namespace Binary64

theorem log2_le_of_lt {n : Nat} (hn : n < mantissaBound) : n.log2 ≤ 52 := by
  by_cases hzero : n = 0
  · rw [hzero]
    decide
  · exact Nat.le_of_lt_succ ((Nat.log2_lt hzero).2 hn)

theorem scaleDown_neg (n k : Nat) : scaleDown n 1 (-(k : Int)) = (n * 2 ^ k, 1) := by
  rw [scaleDown, Int.natAbs_neg, Int.natAbs_natCast]
  split
  · rfl
  · rename_i hk
    have hzero : k = 0 := by omega
    rw [hzero, Nat.pow_eq, Nat.pow_zero, Nat.mul_one, Nat.mul_one]

/-- A number below the bound is scaled up to a mantissa that is below it, too. -/
theorem mul_two_pow_lt {n : Nat} (hn : n < mantissaBound) :
    n * 2 ^ (52 - n.log2) < mantissaBound := by
  have hlog := log2_le_of_lt hn
  calc n * 2 ^ (52 - n.log2) < 2 ^ (n.log2 + 1) * 2 ^ (52 - n.log2) :=
        Nat.mul_lt_mul_of_pos_right Nat.lt_log2_self (Nat.two_pow_pos _)
    _ = 2 ^ 53 := by
        rw [← Nat.pow_add]
        congr 1
        omega

/-- Nothing of a number below the bound is rounded off. -/
theorem ofRatio_one (negative : Bool) {n : Nat} (hn : n ≠ 0) (hbound : n < mantissaBound) :
    ofRatio negative n 1 =
      .finite negative (n * 2 ^ (52 - n.log2)) (-((52 - n.log2 : Nat) : Int)) := by
  have hlog := log2_le_of_lt hbound
  have hexponent : max ((n.log2 : Int) - 52) leastExponent = -((52 - n.log2 : Nat) : Int) := by
    rw [leastExponent]
    omega
  have hmantissa : ¬ (n * 2 ^ (52 - n.log2) == mantissaBound) = true := fun h =>
    Nat.ne_of_lt (mul_two_pow_lt hbound) (beq_iff_eq.1 h)
  have hrange : ¬ greatestExponent < -((52 - n.log2 : Nat) : Int) := by
    rw [greatestExponent]
    omega
  rw [ofRatio, if_neg fun h => hn (beq_iff_eq.1 h), floorLog2_one hn]
  dsimp only
  rw [hexponent, scaleDown_neg, roundDiv_one, if_neg hmantissa]
  exact if_neg hrange

/-- A number that was scaled up is the integer that it was. -/
theorem toInt?_scaled (negative : Bool) (n k : Nat) :
    (finite negative (n * 2 ^ k) (-(k : Int))).toInt? = some (withSign negative n) := by
  have hratio : ratio (n * 2 ^ k) (-(k : Int)) = (n * 2 ^ k, 2 ^ k) := by
    rw [ratio, Int.natAbs_neg, Int.natAbs_natCast]
    split
    · rfl
    · rename_i hk
      have hzero : k = 0 := by omega
      rw [hzero, Nat.pow_eq, Nat.pow_zero, Nat.mul_one]
  rw [toInt?]
  dsimp only
  rw [hratio, Nat.mul_mod_left, if_pos (by decide), truncate?]
  dsimp only
  rw [hratio, Nat.mul_div_cancel n (Nat.two_pow_pos k), withSign]

theorem toInt?_zero (negative : Bool) : (zero negative).toInt? = some (withSign negative 0) := by
  obtain ⟨d, hratio⟩ : ∃ d, ratio 0 leastExponent = (0, d) := ⟨_, if_pos (by decide)⟩
  rw [zero, toInt?]
  dsimp only
  rw [hratio, Nat.zero_mod, if_pos (by decide), truncate?]
  dsimp only
  rw [hratio, Nat.zero_div, withSign]

/-- The digits of a whole number up to the bound are read as this number. -/
theorem toInt?_ofDecimal (negative : Bool) {n : Nat} (hn : n ≤ mantissaBound) :
    (ofDecimal negative n 0).toInt? = some (withSign negative n) := by
  rcases Nat.lt_or_eq_of_le hn with hlt | rfl
  · by_cases hzero : n = 0
    · rw [hzero]
      exact toInt?_zero negative
    · have hlog := log2_le_of_lt hlt
      rw [ofDecimal, if_neg fun h => hzero (beq_iff_eq.1 h), if_neg (by omega), if_neg (by omega),
        if_neg (by decide), Int.natAbs_zero, Nat.pow_eq, Nat.pow_zero, Nat.mul_one,
        ofRatio_one negative hzero hlt, toInt?_scaled]
  · cases negative <;> decide +kernel

/-- The next number is none of them. -/
example : (ofDecimal false (mantissaBound + 1) 0).toInt? = some (mantissaBound : Int) := by
  decide +kernel

end Binary64

end SpecForge.Decimal
