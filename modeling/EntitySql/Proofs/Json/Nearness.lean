/-
  How far the float that written digits mean can be from the number that they spell.

  Each rounding is off by at most a share of `2 ^ -53` of its result and half a unit. Scaling rounds the
  digits, the power of ten and the result, and once more for each power that is applied in several
  steps, so all shares together stay below `2 ^ -50` (`Number.scale?_near`).
-/
import EntitySql.Proofs.Json.Scaling
import Mathlib.Algebra.Order.Field.Basic
import Mathlib.Data.Rat.Cast.Order
import Mathlib.Tactic.FieldSimp
import Mathlib.Tactic.NormNum
import Mathlib.Tactic.Positivity

namespace EntitySql

open Binary

/-! ## Shares of a number -/

/-- The number `v` is off `t` by at most a share of `t` and a rest. -/
def Near (share rest v t : ℚ) : Prop := |v - t| ≤ share * t + rest

namespace Near

variable {a a' c c' v t s k : ℚ}

theorem trans (ha : 0 ≤ a) (h : Near a c v t) (h' : Near a' c' t s) :
    Near (a + a' + a * a') (c + c' + a * c') v s := by
  have most : t ≤ s + (a' * s + c') := by
    have high := (abs_le.1 h').2
    linarith
  have scaled := mul_le_mul_of_nonneg_left most ha
  calc |v - s| ≤ |v - t| + |t - s| := abs_sub_le v t s
    _ ≤ (a * t + c) + (a' * s + c') := add_le_add h h'
    _ ≤ (a + a' + a * a') * s + (c + c' + a * c') := by linarith

theorem mul_right (hk : 0 ≤ k) (h : Near a c v t) : Near a (c * k) (v * k) (t * k) := by
  have scaled := mul_le_mul_of_nonneg_right h hk
  calc |v * k - t * k| = |v - t| * k := by rw [← sub_mul, abs_mul, abs_of_nonneg hk]
    _ ≤ (a * t + c) * k := scaled
    _ = a * (t * k) + c * k := by ring

theorem weaken (h : Near a c v t) (ht : 0 ≤ t) (ha : a ≤ a') (hc : c ≤ c') : Near a' c' v t :=
  le_trans h (add_le_add (mul_le_mul_of_nonneg_right ha ht) hc)

/-- The inverse of a number that is off by a share is off by hardly more. -/
theorem inv (h : Near a 0 v t) (ht : 0 < t) (ha : 0 ≤ a) (small : a < 1) :
    Near (a / (1 - a)) 0 v⁻¹ t⁻¹ := by
  have low : (1 - a) * t ≤ v := by
    have := (abs_le.1 h).1
    linarith
  have rest : 0 < 1 - a := by linarith
  have hv : 0 < v := lt_of_lt_of_le (mul_pos rest ht) low
  have difference : v⁻¹ - t⁻¹ = (t - v) / (v * t) := by
    field_simp
  have share : |t - v| ≤ a * t := by
    rw [abs_sub_comm]
    simpa [Near] using h
  unfold Near
  rw [difference, abs_div, abs_of_pos (mul_pos hv ht), add_zero, div_le_iff₀ (mul_pos hv ht)]
  have inverse : a / (1 - a) * t⁻¹ * (v * t) = a * (v / (1 - a)) := by
    field_simp
  rw [inverse]
  refine le_trans share (mul_le_mul_of_nonneg_left ?_ ha)
  rw [le_div_iff₀ rest, mul_comm]
  exact low

end Near

/-! ## Single roundings -/

/-- Rounding is off by half a unit and a share of `2 ^ -53`. -/
theorem near_roundUnits (num : Nat) {den : Nat} (hden : 0 < den) :
    Near (1 / 2 ^ 53) (1 / 2) (double.roundUnits num den) (num / den) := by
  obtain ⟨low, high⟩ := double.roundUnits_near num hden
  generalize double.roundUnits num den = v at *
  have hden' : (0 : ℚ) < den := Nat.cast_pos.2 hden
  have low' : (2 ^ 53 * num : ℚ) ≤ 2 ^ 53 * (v * den) + num + 2 ^ 52 * den := by exact_mod_cast low
  have high' : (2 ^ 53 * (v * den) : ℚ) ≤ 2 ^ 53 * num + num + 2 ^ 52 * den := by
    exact_mod_cast high
  have scaled : |(v * den - num : ℚ)| ≤ (1 / 2 ^ 53) * num + 1 / 2 * den := by
    rw [abs_le]
    constructor <;> linarith
  have quotient : (v - num / den : ℚ) = (v * den - num) / den := by
    field_simp
  unfold Near
  rw [quotient, abs_div, abs_of_pos hden', div_le_iff₀ hden']
  refine le_trans scaled (le_of_eq ?_)
  field_simp

theorem some_one_cast : (0 : ℚ) < Binary64.one := Nat.cast_pos.2 Decimal.some_one

/-- A whole number is large enough that the half unit counts little. -/
theorem near_whole (n : Nat) :
    Near (9 / 2 ^ 56) 0 (double.roundUnits (n * Binary64.one) 1) (n * Binary64.one) := by
  rcases Nat.eq_zero_or_pos n with rfl | positive
  · rw [Nat.zero_mul, double.roundUnits_zero, Near, Nat.cast_zero, zero_mul, sub_zero, abs_zero,
      mul_zero, add_zero]
  · have rounded := near_roundUnits (n * Binary64.one) (show 0 < 1 by decide)
    rw [Nat.cast_one, div_one, Nat.cast_mul] at rounded
    have large : (2 ^ 60 : ℚ) ≤ n * Binary64.one := by
      have whole := Nat.le_trans Decimal.sizes.large_one (Nat.le_mul_of_pos_left _ positive)
      exact_mod_cast whole
    refine le_trans rounded ?_
    linarith

namespace Number

theorem near_powerOfTen {places : Nat} (h : places ≤ 308) :
    Near (9 / 2 ^ 56) 0 (powerOfTen places / Binary64.one) (10 ^ places) := by
  have rounded := (near_whole (10 ^ places)).mul_right (inv_nonneg.2 some_one_cast.le)
  rw [← powerOfTen_eq h] at rounded
  have cancelled : (((10 ^ places : Nat) : ℚ) * Binary64.one) * (Binary64.one : ℚ)⁻¹ = 10 ^ places := by
    rw [mul_assoc, mul_inv_cancel₀ some_one_cast.ne', mul_one, Nat.cast_pow]
    rfl
  rw [cancelled, zero_mul, ← div_eq_mul_inv] at rounded
  exact rounded

theorem one_le_powerOfTen {places : Nat} (h : places ≤ 308) :
    Binary64.one ≤ powerOfTen places := by
  have some_power : 1 ≤ 10 ^ places := Nat.one_le_pow _ _ (by decide)
  calc Binary64.one = double.roundUnits (1 * Binary64.one) 1 := Decimal.sizes.one_kept.symm
    _ ≤ double.roundUnits (10 ^ places * Binary64.one) 1 :=
        double.roundUnits_mono (Nat.mul_le_mul_right _ some_power)
    _ = powerOfTen places := (powerOfTen_eq h).symm

/-! ## Scaling -/

/-- The float is a count of units near a target. -/
def IsNear (share rest : ℚ) (y : Binary64) (target : ℚ) : Prop :=
  ∃ v, y = .ofDatum (.finite false v) ∧ IsDouble v ∧ Near share rest v target

variable {units places : Nat}

theorem isNear_mulMagnitude (h : places ≤ 308)
    (finite : (Binary64.mulMagnitude units (powerOfTen places)).isInfinite = false) :
    IsNear (5 / 2 ^ 54) (1 / 2) (.mulMagnitude units (powerOfTen places)) (units * 10 ^ places) := by
  have positive := Decimal.some_one
  have rounded := near_roundUnits (units * powerOfTen places * Binary64.one)
    (Nat.mul_pos positive positive)
  have product : ((units * powerOfTen places * Binary64.one : Nat) : ℚ) /
      (Binary64.one * Binary64.one : Nat) = powerOfTen places / Binary64.one * units := by
    have one := some_one_cast.ne'
    push_cast
    field_simp
  have power := (near_powerOfTen h).mul_right (Nat.cast_nonneg units)
  rw [product] at rounded
  have chained := rounded.trans (by norm_num) power
  have near : Near (5 / 2 ^ 54) (1 / 2) _ _ := chained.weaken
    (mul_nonneg (by positivity) (Nat.cast_nonneg units)) (by norm_num) (by norm_num)
  rw [mul_comm _ (units : ℚ)] at near
  have result : Binary64.mulMagnitude units (powerOfTen places) =
      .ofDatum (.finite false (double.roundUnits (units * powerOfTen places * Binary64.one)
        (Binary64.one * Binary64.one))) := rfl
  rw [result] at finite ⊢
  exact ⟨_, rfl, isDouble_roundUnits (Binary64.lt_limit_of_isInfinite_eq_false finite), near⟩

theorem isNear_divMagnitude (double_units : IsDouble units) (h : places ≤ 308) :
    IsNear (5 / 2 ^ 54) (1 / 2) (.divMagnitude units (powerOfTen places))
      (units * (10 ^ places)⁻¹) := by
  have large := one_le_powerOfTen h
  have positive : 0 < powerOfTen places := Nat.lt_of_lt_of_le Decimal.some_one large
  have rounded := near_roundUnits (units * Binary64.one) positive
  have quotient : ((units * Binary64.one : Nat) : ℚ) / powerOfTen places =
      (powerOfTen places / Binary64.one : ℚ)⁻¹ * units := by
    rw [inv_div]
    push_cast
    ring
  have power := ((near_powerOfTen h).inv (by positivity) (by norm_num) (by norm_num)).mul_right
    (Nat.cast_nonneg units)
  rw [quotient] at rounded
  have chained := rounded.trans (by norm_num) power
  have near : Near (5 / 2 ^ 54) (1 / 2) _ _ := chained.weaken
    (mul_nonneg (by positivity) (Nat.cast_nonneg units)) (by norm_num) (by norm_num)
  rw [mul_comm _ (units : ℚ)] at near
  have below := roundUnits_le_of_isDouble double_units positive (Nat.mul_le_mul_left units large)
  exact ⟨_, rfl, isDouble_roundUnits (Nat.lt_of_le_of_lt below double_units.bounded), near⟩

variable {exponent : Int} {y : Binary64}

/-- A power of at most 308 digits is applied in one step. -/
theorem isNear_scale? {steps : Nat} (double_units : IsDouble units) (small : exponent.natAbs ≤ 308)
    (h : scale? steps (.ofDatum (.finite false units)) exponent = some y) :
    IsNear (5 / 2 ^ 54) (1 / 2) y (units * 10 ^ exponent) := by
  unfold scale? at h
  rw [if_pos small, magnitude_ofDatum double_units] at h
  by_cases up : 0 ≤ exponent
  · rw [if_pos up] at h
    dsimp only at h
    split at h
    · cases h
    · next finite =>
      rw [Bool.not_eq_true] at finite
      have power : (10 : ℚ) ^ exponent = 10 ^ exponent.natAbs := by
        rw [← zpow_natCast, Int.natAbs_of_nonneg up]
      rw [← Option.some.inj h, power]
      exact isNear_mulMagnitude small finite
  · rw [if_neg up] at h
    have power : (10 : ℚ) ^ exponent = (10 ^ exponent.natAbs)⁻¹ := by
      rw [← zpow_natCast, ← zpow_neg, Int.ofNat_natAbs_of_nonpos (by omega), neg_neg]
    rw [← Option.some.inj h, power]
    exact isNear_divMagnitude double_units small

/-- Smaller powers are applied in two steps, and larger ones to nothing but zero. -/
theorem isNear_scale?_of_lt {steps : Nat} (double_units : IsDouble units)
    (least : -616 ≤ exponent) (large : 308 < exponent.natAbs)
    (h : scale? (steps + 1) (.ofDatum (.finite false units)) exponent = some y) :
    IsNear (21 / 2 ^ 55) (5 / 8) y (units * 10 ^ exponent) := by
  have positive : (0 : ℚ) < 10 ^ exponent := zpow_pos (by norm_num) exponent
  unfold scale? at h
  rw [if_neg (by omega), magnitude_ofDatum double_units] at h
  split at h
  · next zero =>
    rw [← Option.some.inj h]
    refine ⟨units, rfl, double_units, ?_⟩
    rw [zero]
    norm_num [Near]
  split at h
  · cases h
  · obtain ⟨v, result, double_v, near⟩ := isNear_divMagnitude double_units (Nat.le_refl 308)
    rw [result] at h
    obtain ⟨w, rfl, double_w, near'⟩ := isNear_scale? double_v (by omega) h
    have rest : (10 : ℚ) ^ (exponent + 308) ≤ 1 / 10 := by
      calc (10 : ℚ) ^ (exponent + 308) ≤ 10 ^ (-1 : Int) :=
            zpow_le_zpow_right₀ (by norm_num) (by omega)
        _ = 1 / 10 := by norm_num
    have scaled := near.mul_right (k := 10 ^ (exponent + 308)) (zpow_nonneg (by norm_num) _)
    have product : (units * (10 ^ 308)⁻¹ : ℚ) * 10 ^ (exponent + 308) = units * 10 ^ exponent := by
      rw [mul_assoc, ← zpow_natCast, ← zpow_neg, ← zpow_add₀ (by norm_num), Nat.cast_ofNat,
        neg_add_cancel_comm_assoc]
    rw [product] at scaled
    have chained := near'.trans (by norm_num) scaled
    refine ⟨w, rfl, double_w, chained.weaken (mul_nonneg (Nat.cast_nonneg units) positive.le) ?_ ?_⟩
    · norm_num
    · linarith

/-! ## Written digits -/

/-- The digits and the power of ten as a count of units that is not rounded. -/
def spelled (digits : Nat) (exponent : Int) : ℚ := digits * Binary64.one * 10 ^ exponent

theorem spelled_nonneg (digits : Nat) (exponent : Int) : 0 ≤ spelled digits exponent :=
  mul_nonneg (mul_nonneg (Nat.cast_nonneg digits) some_one_cast.le) (zpow_nonneg (by norm_num) _)

theorem near_unitsOf (digits : Nat) (exponent : Int) :
    Near (1 / 2 ^ 53) (1 / 2) (Decimal.unitsOf digits exponent) (spelled digits exponent) := by
  have quotient : ((digits * 10 ^ exponent.toNat * Binary64.one : Nat) : ℚ) /
      (10 ^ (-exponent).toNat : Nat) = spelled digits exponent := by
    have power : (10 : ℚ) ^ exponent.toNat / 10 ^ (-exponent).toNat = 10 ^ exponent := by
      rw [← zpow_natCast, ← zpow_natCast, ← zpow_sub₀ (by norm_num), Int.toNat_sub_toNat_neg]
    rw [spelled, ← power]
    push_cast
    ring
  rw [← quotient]
  exact near_roundUnits _ (Nat.pow_pos (by decide))

theorem isNear_spelled {digits : Nat} (fits : digits < UInt64.size) (least : -616 ≤ exponent)
    (h : scale? 3 (.ofInt digits) exponent = some y) :
    IsNear (13 / 2 ^ 54) (5 / 8) y (spelled digits exponent) := by
  have largest : UInt64.size ≤ 10 ^ 20 := by decide
  have double_digits := isDouble_roundUnits
    (roundUnits_whole_lt (Nat.le_of_lt (Nat.lt_of_lt_of_le fits largest)) (by decide))
  rw [ofInt_natCast] at h
  obtain ⟨v, rfl, double_v, near⟩ : IsNear (21 / 2 ^ 55) (5 / 8) y
      (double.roundUnits (digits * Binary64.one) 1 * 10 ^ exponent) := by
    rcases Nat.lt_or_ge 308 exponent.natAbs with large | small
    · exact isNear_scale?_of_lt double_digits least large h
    · obtain ⟨v, result, double_v, near⟩ := isNear_scale? double_digits small h
      refine ⟨v, result, double_v, near.weaken ?_ (by norm_num) (by norm_num)⟩
      exact mul_nonneg (Nat.cast_nonneg _) (zpow_nonneg (by norm_num) _)
  have scaled := (near_whole digits).mul_right (k := 10 ^ exponent) (zpow_nonneg (by norm_num) _)
  have chained := near.trans (by norm_num) scaled
  exact ⟨v, rfl, double_v,
    chained.weaken (spelled_nonneg digits exponent) (by norm_num) (by norm_num)⟩

/-- The float that digits mean is off the number nearest to what they spell by at most a share of
`2 ^ -50` and two units. -/
theorem scale?_near {digits : Nat} (fits : digits < UInt64.size) (least : -616 ≤ exponent)
    (h : scale? 3 (.ofInt digits) exponent = some y) :
    ∃ v : Nat, y = .ofDatum (.finite false v) ∧ IsDouble v ∧
      ((v : Int) - Decimal.unitsOf digits exponent).natAbs * 2 ^ 50 ≤
        Decimal.unitsOf digits exponent + 2 ^ 51 := by
  obtain ⟨v, result, double_v, near⟩ := isNear_spelled fits least h
  refine ⟨v, result, double_v, ?_⟩
  have nearest := near_unitsOf digits exponent
  have sign := spelled_nonneg digits exponent
  generalize spelled digits exponent = t at *
  generalize Decimal.unitsOf digits exponent = u at *
  have far : |(v - u : ℚ)| ≤ (15 / 2 ^ 54) * t + 9 / 8 := by
    have gap := abs_sub_le (v : ℚ) t u
    rw [abs_sub_comm t] at gap
    unfold Near at near nearest
    linarith
  have close : |(v - u : ℚ)| * 2 ^ 50 ≤ u + 2 ^ 51 := by
    have low := (abs_le.1 nearest).1
    linarith
  have cast : (((v : Int) - u).natAbs : ℚ) = |(v - u : ℚ)| := by
    rw [Nat.cast_natAbs]
    push_cast
    rfl
  rw [← cast] at close
  exact_mod_cast close

end Number

end EntitySql
