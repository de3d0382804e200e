import Mathlib.Algebra.Order.Field.Power
import Mathlib.Data.Rat.Cast.Order
import Mathlib.Tactic.GCongr
import Mathlib.Tactic.Linarith
import Mathlib.Tactic.NormNum
import Mathlib.Tactic.Ring
import SqliteBridge.Json.Number

/-! Bounds of rounded fractions. A fraction below `2 ^ 64` rounds to a number that is far from
infinite, and dividing such a number by powers of ten keeps it below. -/
namespace SqliteBridge.Binary64

variable {x y : Binary64} {num den : Nat}

/-! ### Encodings -/

theorem magnitudeBits_withSign (negative : Bool) {magnitude : Nat} (fits : magnitude < signPlace) :
    (withSign negative magnitude).magnitudeBits = magnitude := by
  have bits : (withSign negative magnitude).bits.toNat =
      (if negative then magnitude + signPlace else magnitude) % 2 ^ 64 := UInt64.toNat_ofNat'
  rw [magnitudeBits, bits]
  simp only [signPlace] at fits ⊢
  split <;> omega

theorem magnitudeBits_negate (x : Binary64) : x.negate.magnitudeBits = x.magnitudeBits :=
  magnitudeBits_withSign _ (Nat.mod_lt _ (by decide))

theorem isFinite_negate (x : Binary64) : x.negate.isFinite = x.isFinite := by
  rw [isFinite, magnitudeBits_negate, isFinite]

theorem isFinite_zero (negative : Bool) : (zero negative).isFinite = true := by
  rw [isFinite, zero, magnitudeBits_withSign _ (by decide)]
  decide

/-- A rounded fraction is a number, finite or infinite. -/
theorem ofFraction_le (negative : Bool) (num den : Nat) :
    (ofFraction negative num den).magnitudeBits ≤ infinityBits := by
  unfold ofFraction
  split
  · rw [zero, magnitudeBits_withSign _ (by decide)]
    exact Nat.zero_le _
  · dsimp only
    rw [magnitudeBits_withSign _ (Nat.lt_of_le_of_lt (Nat.min_le_right _ _) (by decide))]
    exact Nat.min_le_right _ _

theorem isFinite_of_not_infinite (bounded : x.magnitudeBits ≤ infinityBits)
    (finite : x.isInfinite = false) : x.isFinite = true := by
  rw [isInfinite, beq_eq_false_iff_ne] at finite
  exact decide_eq_true (Nat.lt_of_le_of_ne bounded finite)

/-! ### The unit in the last place -/

theorem cast_pow_toNat {e : Int} (nonneg : 0 ≤ e) :
    ((Nat.pow 2 e.toNat : Nat) : ℚ) = (2 : ℚ) ^ e := by
  rw [Nat.pow_eq, Nat.cast_pow, Nat.cast_ofNat, ← zpow_natCast, Int.toNat_of_nonneg nonneg]

/-- The comparison of a fraction with a power of two, in integers. -/
theorem isBelow_iff (num den : Nat) (e : Int) :
    (if 0 ≤ e then num < den * Nat.pow 2 e.toNat else num * Nat.pow 2 (-e).toNat < den) ↔
      (num : ℚ) < den * (2 : ℚ) ^ e := by
  split
  · rename_i nonneg
    rw [← cast_pow_toNat nonneg, ← Nat.cast_mul, Nat.cast_lt]
  · rename_i negative
    have power : (0 : ℚ) < (2 : ℚ) ^ (-e) := zpow_pos (by norm_num) _
    rw [← Nat.cast_lt (α := ℚ), Nat.cast_mul, cast_pow_toNat (by omega), ← lt_div_iff₀ power,
      zpow_neg, div_inv_eq_mul]

/-- The unit in the last place is the binary logarithm of the fraction, 52 places down. -/
theorem unitExponent_eq (positive : 0 < num) (positive' : 0 < den) :
    ∃ log : Int, unitExponent num den = max (log - 52) (-1074) ∧
      (den : ℚ) * (2 : ℚ) ^ log ≤ num ∧ (num : ℚ) < den * (2 : ℚ) ^ (log + 1) := by
  have two : (2 : ℚ) ≠ 0 := by norm_num
  have least : (2 : ℚ) ^ (Nat.log2 num : ℤ) ≤ num := by
    rw [zpow_natCast]
    exact_mod_cast Nat.log2_self_le (Nat.ne_of_gt positive)
  have largest : (num : ℚ) < (2 : ℚ) ^ (Nat.log2 num + 1 : ℤ) := by
    have below : num < 2 ^ (Nat.log2 num + 1) := Nat.lt_log2_self
    exact_mod_cast below
  have least' : (2 : ℚ) ^ (Nat.log2 den : ℤ) ≤ den := by
    rw [zpow_natCast]
    exact_mod_cast Nat.log2_self_le (Nat.ne_of_gt positive')
  have largest' : (den : ℚ) < (2 : ℚ) ^ (Nat.log2 den + 1 : ℤ) := by
    have below : den < 2 ^ (Nat.log2 den + 1) := Nat.lt_log2_self
    exact_mod_cast below
  let guess : Int := (Nat.log2 num : Int) - (Nat.log2 den : Int)
  have above : (num : ℚ) < den * (2 : ℚ) ^ (guess + 1) := by
    calc (num : ℚ) < (2 : ℚ) ^ (Nat.log2 num + 1 : ℤ) := largest
      _ = (2 : ℚ) ^ (Nat.log2 den : ℤ) * (2 : ℚ) ^ (guess + 1) := by
        rw [← zpow_add₀ two]
        congr 1
        omega
      _ ≤ den * (2 : ℚ) ^ (guess + 1) := by gcongr
  have below : (den : ℚ) * (2 : ℚ) ^ (guess - 1) ≤ num := by
    calc (den : ℚ) * (2 : ℚ) ^ (guess - 1)
        ≤ (2 : ℚ) ^ (Nat.log2 den + 1 : ℤ) * (2 : ℚ) ^ (guess - 1) := by gcongr
      _ = (2 : ℚ) ^ (Nat.log2 num : ℤ) := by
        rw [← zpow_add₀ two]
        congr 1
        omega
      _ ≤ num := least
  by_cases small : (num : ℚ) < den * (2 : ℚ) ^ guess
  · refine ⟨guess - 1, ?_, below, by rwa [sub_add_cancel]⟩
    unfold unitExponent
    simp only [isBelow_iff]
    rw [if_pos small]
  · refine ⟨guess, ?_, not_lt.mp small, above⟩
    unfold unitExponent
    simp only [isBelow_iff]
    rw [if_neg small]

theorem roundQuotient_le {bound : Nat} (below : num < den * bound) :
    roundQuotient num den ≤ bound := by
  have low : num / den < bound := Nat.div_lt_of_lt_mul below
  unfold roundQuotient
  dsimp only
  split
  · omega
  · split <;> omega

/-! ### Magnitudes -/

/-- The encoding of the power of two that bounds the numbers here. -/
def boundBits : Nat := 1087 * hiddenPlace

/-- A number below that power of two. -/
def Bounded (x : Binary64) : Prop := x.magnitudeBits ≤ boundBits

theorem Bounded.isFinite (bounded : Bounded x) : x.isFinite = true :=
  decide_eq_true (Nat.lt_of_le_of_lt bounded (by decide))

theorem zero_bounded (negative : Bool) : Bounded (zero negative) := by
  rw [Bounded, zero, magnitudeBits_withSign _ (by decide)]
  exact Nat.zero_le _

theorem ofFraction_bounded (negative : Bool) (positive : 0 < den) (below : num < den * 2 ^ 64) :
    Bounded (ofFraction negative num den) := by
  have two : (1 : ℚ) < 2 := by norm_num
  unfold ofFraction
  split
  · exact zero_bounded negative
  · rename_i nonzero
    obtain ⟨log, unit, least, largest⟩ :=
      unitExponent_eq (Nat.pos_of_ne_zero nonzero) positive
    have below' : (num : ℚ) < den * (2 : ℚ) ^ (64 : ℤ) := by exact_mod_cast below
    have log_lt : log < 64 := by
      have powers := lt_of_mul_lt_mul_left (least.trans_lt below') (Nat.cast_nonneg den)
      exact (zpow_lt_zpow_iff_right₀ two).mp powers
    have exponent : log + 1 ≤ 53 + unitExponent num den := by
      rw [unit]
      omega
    have scaled : (num : ℚ) < (den * 2 ^ 53 : Nat) * (2 : ℚ) ^ unitExponent num den := by
      calc (num : ℚ) < den * (2 : ℚ) ^ (log + 1) := largest
        _ ≤ den * (2 : ℚ) ^ (53 + unitExponent num den) :=
          mul_le_mul_of_nonneg_left (zpow_le_zpow_right₀ two.le exponent) (Nat.cast_nonneg den)
        _ = (den * 2 ^ 53 : Nat) * (2 : ℚ) ^ unitExponent num den := by
          rw [zpow_add₀ (by norm_num), ← mul_assoc]
          norm_num
    rw [← isBelow_iff] at scaled
    have digits : (if 0 ≤ unitExponent num den then
        roundQuotient num (den * Nat.pow 2 (unitExponent num den).toNat)
      else roundQuotient (num * Nat.pow 2 (-unitExponent num den).toNat) den) ≤ 2 ^ 53 := by
      split at scaled
      · rename_i nonneg
        rw [if_pos nonneg]
        refine roundQuotient_le ?_
        rwa [Nat.mul_right_comm]
      · rename_i negative
        rw [if_neg negative]
        exact roundQuotient_le scaled
    dsimp only
    rw [Bounded, magnitudeBits_withSign _ (Nat.lt_of_le_of_lt (Nat.min_le_right _ _) (by decide))]
    refine Nat.le_trans (Nat.min_le_left _ _) ?_
    simp only [boundBits, hiddenPlace]
    omega

theorem ofInt_bounded {n : Int} (below : n.natAbs < 2 ^ 64) : Bounded (ofInt n) :=
  ofFraction_bounded _ (by decide) (by rwa [Nat.one_mul])

theorem significand_lt (x : Binary64) : x.significand < 2 ^ 53 := by
  unfold significand
  split
  · rename_i small
    exact Nat.lt_trans small (by decide)
  · have rest := Nat.mod_lt x.magnitudeBits (by decide : 0 < hiddenPlace)
    simp only [hiddenPlace] at rest ⊢
    omega

theorem fraction_pos (x : Binary64) : 0 < x.fraction.2 := by
  unfold fraction
  split
  · exact Nat.zero_lt_one
  · exact Nat.pow_pos (by decide)

theorem Bounded.fraction_lt (bounded : Bounded x) : x.fraction.1 < x.fraction.2 * 2 ^ 65 := by
  have scale_le : x.scale ≤ 12 := by
    have place : x.magnitudeBits / hiddenPlace ≤ 1087 :=
      Nat.div_le_of_le_mul (Nat.mul_comm _ _ ▸ bounded)
    unfold scale
    omega
  have significand := x.significand_lt
  unfold fraction
  split
  · rename_i nonneg
    have power : Nat.pow 2 x.scale.toNat ≤ 2 ^ 12 :=
      Nat.pow_le_pow_right (by decide) (by omega)
    exact Nat.lt_of_lt_of_le (Nat.mul_lt_mul_of_lt_of_le significand power (by decide))
      (by decide : 2 ^ 53 * 2 ^ 12 ≤ 1 * 2 ^ 65)
  · have power : 0 < Nat.pow 2 (-x.scale).toNat := Nat.pow_pos (by decide)
    exact Nat.lt_of_lt_of_le significand
      (Nat.le_trans (by decide : 2 ^ 53 ≤ 1 * 2 ^ 65) (Nat.mul_le_mul_right _ power))

/-- Dividing by two or more keeps a number below the bound. -/
theorem Bounded.div (bounded : Bounded x) (half : y.fraction.2 * 2 ≤ y.fraction.1) :
    Bounded (x.div y) := by
  have positive : 0 < y.fraction.1 := by
    have denominator := y.fraction_pos
    omega
  refine ofFraction_bounded _ (Nat.mul_pos x.fraction_pos positive) ?_
  calc x.fraction.1 * y.fraction.2 < x.fraction.2 * 2 ^ 65 * y.fraction.2 :=
        Nat.mul_lt_mul_of_pos_right bounded.fraction_lt y.fraction_pos
    _ = x.fraction.2 * (y.fraction.2 * 2) * 2 ^ 64 := by ring
    _ ≤ x.fraction.2 * y.fraction.1 * 2 ^ 64 := by gcongr

end SqliteBridge.Binary64

namespace SqliteBridge.Json.Number

open Binary64 (Bounded)

theorem two_le_powerOfTen {places : Nat} (positive : 0 < places) (few : places ≤ 308) :
    (powerOfTen places).fraction.2 * 2 ≤ (powerOfTen places).fraction.1 := by
  have table : ∀ places < 309, places ≠ 0 →
      (powerOfTen places).fraction.2 * 2 ≤ (powerOfTen places).fraction.1 := by
    decide +kernel
  exact table places (Nat.lt_succ_of_le few) (Nat.ne_of_gt positive)

theorem divideDown_bounded {x : Binary64} (bounded : Bounded x) {places : Nat}
    (positive : 0 < places) : Bounded (divideDown x places) := by
  induction places using Nat.strongRecOn generalizing x with
  | ind places ih =>
    unfold divideDown
    split
    · rename_i few
      exact bounded.div (two_le_powerOfTen positive few)
    · split
      · exact bounded
      · exact ih _ (by omega) (bounded.div (two_le_powerOfTen (by decide) (Nat.le_refl 308)))
          (by omega)

end SqliteBridge.Json.Number
