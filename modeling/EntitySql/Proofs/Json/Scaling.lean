/-
  The float that written digits mean: the digits as one whole number, scaled by a power of ten.

  Scaling rounds the digits, the power and the result. If the first two are numbers of double precision
  nothing is lost before the last step, and the float is the one nearest to the written number
  (`Number.scale?_of_isExact`). In any case at most seventeen digits for less than the largest finite
  number make a float (`Number.isSome_scale?_of_lt`): scaling down always gives one, and scaling up stays
  below the limit through all three roundings.
-/
import EntitySql.Json.Number
import EntitySql.Proofs.Decimal.Shortest

namespace EntitySql

open Binary

namespace Number

/-! ## The limit -/

/-- The largest finite number. -/
def greatest : Nat := limit - 2 ^ 2045

/-- Counts of units from here on are rounded to the largest finite number or to a larger one. -/
def brink : Nat := greatest - 2 ^ 2044 + 1

/-- What the product of two whole numbers becomes when both of them and their product are rounded. -/
def roundedProduct (digits power : Nat) : Nat :=
  double.roundUnits (double.roundUnits (digits * Binary64.one) 1 *
    double.roundUnits (power * Binary64.one) 1 * Binary64.one) (Binary64.one * Binary64.one)

/-- The largest whole number that stays below the brink with a power of ten. -/
def largestDigits (places : Nat) : Nat := brink / (10 ^ places * Binary64.one)

/-- What scaling does at the limit of the format. -/
structure Limits : Prop where
  power_lt : double.roundUnits (10 ^ 308 * Binary64.one) 1 < limit
  half_le_greatest : 2 ^ (double.fractionBits + 2045) ≤ greatest
  brink_le : brink ≤ limit
  roundUnits_brink : double.roundUnits brink 1 = greatest
  small_lt : roundedProduct (10 ^ 17) (10 ^ 291) < limit
  large_lt : ∀ k < 17, roundedProduct (largestDigits (292 + k)) (10 ^ (292 + k)) < limit
  /-- The largest finite number itself is not rounded up. -/
  isSome_greatest : (scale? 3 (.ofInt (17976931348623157 : Nat)) 292).isSome

theorem limits : Limits where
  power_lt := by decide +kernel
  half_le_greatest := by decide +kernel
  brink_le := by decide +kernel
  roundUnits_brink := by decide +kernel
  small_lt := by decide +kernel
  large_lt := by decide +kernel
  isSome_greatest := by decide +kernel

/-! ## Magnitudes -/

theorem magnitude_ofDatum {units : Nat} (h : IsDouble units) :
    magnitude (.ofDatum (.finite false units)) = units := by
  rw [magnitude, Binary64.units?, Binary64.datum_ofDatum false h]
  rfl

/-- A whole number is a number of double precision. -/
def IsExact (n : Nat) : Prop := IsDouble (n * Binary64.one)

theorem ofInt_natCast (n : Nat) :
    Binary64.ofInt n = .ofDatum (.finite false (double.roundUnits (n * Binary64.one) 1)) := by
  have sign : decide ((n : Int) < 0) = false := by
    rw [decide_eq_false_iff_not]
    omega
  rw [Binary64.ofInt, Binary64.ofQuotient, sign, Int.natAbs_natCast]

theorem magnitude_ofInt {n : Nat} (h : double.roundUnits (n * Binary64.one) 1 < limit) :
    magnitude (.ofInt n) = double.roundUnits (n * Binary64.one) 1 := by
  rw [ofInt_natCast, magnitude_ofDatum (isDouble_roundUnits h)]

/-- Whole numbers up to a power of ten that is not too large are not too large either. -/
theorem roundUnits_whole_lt {n places : Nat} (h : n ≤ 10 ^ places) (few : places ≤ 308) :
    double.roundUnits (n * Binary64.one) 1 < limit := by
  have power : 10 ^ places ≤ 10 ^ 308 := by rwa [Nat.pow_le_pow_iff_right (by decide)]
  exact Nat.lt_of_le_of_lt
    (double.roundUnits_mono (Nat.mul_le_mul_right _ (Nat.le_trans h power))) limits.power_lt

theorem powerOfTen_eq {places : Nat} (h : places ≤ 308) :
    powerOfTen places = double.roundUnits (10 ^ places * Binary64.one) 1 :=
  magnitude_ofInt (roundUnits_whole_lt (Nat.le_refl _) h)

theorem magnitude_ofInt_of_isExact {n : Nat} (h : IsExact n) :
    magnitude (.ofInt n) = n * Binary64.one := by
  have kept := roundUnits_one_of_isDouble h
  rw [magnitude_ofInt (by rw [kept]; exact h.bounded), kept]

theorem powerOfTen_of_isExact {n : Nat} (h : IsExact (10 ^ n)) :
    powerOfTen n = 10 ^ n * Binary64.one := magnitude_ofInt_of_isExact h

/-! ## Scaling that loses nothing before the last step -/

theorem isInfinite_ofDatum {units : Nat} (h : IsDouble units) :
    (Binary64.ofDatum (.finite false units)).isInfinite = false := by
  rw [Binary64.isInfinite, Binary64.datum_ofDatum false h]

theorem limit_le_power {places : Nat} (h : 309 ≤ places) :
    limit ≤ 10 ^ places * Binary64.one := by
  have first := Decimal.sizes.limit_le_power
  have others : 10 ^ 309 ≤ 10 ^ places := by
    rw [Nat.pow_le_pow_iff_right (by decide)]
    exact h
  exact Nat.le_trans first (Nat.mul_le_mul_right _ others)

theorem natAbs_le_of_isExact {exponent : Int} (h : IsExact (10 ^ exponent.natAbs)) :
    exponent.natAbs ≤ 308 := by
  by_contra large
  have power := limit_le_power (Nat.lt_of_not_le large)
  exact Nat.not_lt_of_le power h.bounded

/-- If the digits and the power are numbers of double precision, the result is the number nearest to
their product or quotient. -/
theorem scale?_of_isExact {digits : Nat} {exponent : Int} (steps : Nat) (hdigits : IsExact digits)
    (hpower : IsExact (10 ^ exponent.natAbs)) (h : IsDouble (Decimal.unitsOf digits exponent)) :
    scale? steps (.ofInt digits) exponent =
      some (.ofDatum (.finite false (Decimal.unitsOf digits exponent))) := by
  have small := natAbs_le_of_isExact hpower
  have leading := magnitude_ofInt_of_isExact hdigits
  have power := powerOfTen_of_isExact hpower
  have positive := Decimal.some_one
  unfold scale?
  rw [if_pos small, leading, power]
  by_cases up : 0 ≤ exponent
  · have product : double.roundUnits
        (digits * Binary64.one * (10 ^ exponent.natAbs * Binary64.one) * Binary64.one)
        (Binary64.one * Binary64.one) = Decimal.unitsOf digits exponent := by
      have places : exponent.natAbs = exponent.toNat ∧ (-exponent).toNat = 0 := by omega
      apply double.roundUnits_congr (Nat.mul_pos positive positive) (Nat.pow_pos (by decide))
      rw [places.1, places.2]
      ring
    have result : Binary64.mulMagnitude (digits * Binary64.one)
        (10 ^ exponent.natAbs * Binary64.one) =
        .ofDatum (.finite false (Decimal.unitsOf digits exponent)) := by
      rw [← product]
      rfl
    rw [if_pos up, result]
    exact if_neg (by rw [isInfinite_ofDatum h]; decide)
  · have quotient : double.roundUnits (digits * Binary64.one * Binary64.one)
        (10 ^ exponent.natAbs * Binary64.one) = Decimal.unitsOf digits exponent := by
      have places : exponent.toNat = 0 ∧ (-exponent).toNat = exponent.natAbs := by omega
      apply double.roundUnits_congr (Nat.mul_pos (Nat.pow_pos (by decide)) positive)
        (Nat.pow_pos (by decide))
      rw [places.1, places.2]
      ring
    rw [if_neg up, ← quotient]
    rfl

/-! ## Scaling of written floats -/

/-- Scaling down always gives a float. -/
theorem isSome_scale?_of_neg (steps : Nat) (x : Binary64) {exponent : Int} (h : exponent < 0) :
    (scale? steps x exponent).isSome := by
  induction steps generalizing x exponent with
  | zero =>
    unfold scale?
    split
    · rw [if_neg (by omega)]
      rfl
    split
    · rfl
    · rw [if_neg (by omega)]
      rfl
  | succ steps ih =>
    unfold scale?
    split
    · rw [if_neg (by omega)]
      rfl
    split
    · rfl
    · rw [if_neg (by omega)]
      exact ih _ (by omega)

theorem le_greatest {units : Nat} (h : IsDouble units) : units ≤ greatest := by
  have whole : limit = 2 ^ 53 * 2 ^ 2045 := by rw [limit, ← Nat.pow_add]
  by_contra larger
  have step : double.step units = 2045 := by
    apply double.step_eq
    · right
      exact Nat.le_trans limits.half_le_greatest (Nat.le_of_lt (Nat.lt_of_not_le larger))
    · exact Nat.lt_of_lt_of_le h.bounded (limit_le_two_pow (by decide))
  obtain ⟨q, hq, leading, -⟩ := h.exists_leading
  rw [step] at hq
  rw [hq, greatest, whole] at larger
  have product : (q + 1) * 2 ^ 2045 ≤ 2 ^ 53 * 2 ^ 2045 := Nat.mul_le_mul_right _ leading
  rw [Nat.add_mul, Nat.one_mul] at product
  exact larger (Nat.le_sub_of_add_le product)

theorem roundedProduct_mono {a b c d : Nat} (hab : a ≤ b) (hcd : c ≤ d) :
    roundedProduct a c ≤ roundedProduct b d := by
  have rounded : ∀ {m n : Nat}, m ≤ n →
      double.roundUnits (m * Binary64.one) 1 ≤ double.roundUnits (n * Binary64.one) 1 :=
    fun h => double.roundUnits_mono (Nat.mul_le_mul_right _ h)
  exact double.roundUnits_mono (Nat.mul_le_mul_right _ (Nat.mul_le_mul (rounded hab) (rounded hcd)))

/-- Seventeen digits below the brink stay below the limit through all roundings. -/
theorem roundedProduct_lt {digits places : Nat} (few : digits ≤ 10 ^ 17) (hplaces : places ≤ 308)
    (below : digits * 10 ^ places * Binary64.one < brink) :
    roundedProduct digits (10 ^ places) < limit := by
  rcases Nat.lt_or_ge places 292 with small | large
  · have power : 10 ^ places ≤ 10 ^ 291 := by
      rw [Nat.pow_le_pow_iff_right (by decide)]
      omega
    exact Nat.lt_of_le_of_lt (roundedProduct_mono few power) limits.small_lt
  · obtain ⟨k, rfl⟩ := Nat.exists_eq_add_of_le large
    have most : digits ≤ largestDigits (292 + k) := by
      rw [largestDigits, Nat.le_div_iff_mul_le
        (Nat.mul_pos (Nat.pow_pos (by decide)) Decimal.some_one), ← Nat.mul_assoc]
      exact Nat.le_of_lt below
    exact Nat.lt_of_le_of_lt (roundedProduct_mono most (Nat.le_refl _))
      (limits.large_lt k (by omega))

/-- Digits that stand for less than the largest finite number make a float. -/
theorem isSome_scale?_of_lt (steps : Nat) {digits : Nat} {exponent : Int}
    (few : 0 ≤ exponent → 0 < digits ∧ digits ≤ 10 ^ 17)
    (below : Decimal.unitsOf digits exponent < greatest) :
    (scale? steps (.ofInt digits) exponent).isSome := by
  rcases Int.lt_or_le exponent 0 with down | up
  · exact isSome_scale?_of_neg steps _ down
  · obtain ⟨positive, seventeen⟩ := few up
    obtain ⟨places, rfl⟩ := Int.eq_ofNat_of_zero_le up
    have rounded : Decimal.unitsOf digits places =
        double.roundUnits (digits * 10 ^ places * Binary64.one) 1 := by
      have none : (-(places : Int)).toNat = 0 := by omega
      rw [Decimal.unitsOf, Int.toNat_natCast, none, Nat.pow_zero]
    have short : digits * 10 ^ places * Binary64.one < brink := by
      by_contra large
      have order : double.roundUnits brink 1 ≤ double.roundUnits (digits * 10 ^ places * Binary64.one) 1 :=
        double.roundUnits_mono (Nat.le_of_not_lt large)
      rw [limits.roundUnits_brink, ← rounded] at order
      omega
    have hplaces : places ≤ 308 := by
      by_contra large
      have power := limit_le_power (Nat.lt_of_not_le large)
      have product : 10 ^ places * Binary64.one ≤ digits * 10 ^ places * Binary64.one :=
        Nat.mul_le_mul_right _ (Nat.le_mul_of_pos_left _ positive)
      have order := limits.brink_le
      omega
    have result : Binary64.mulMagnitude (magnitude (.ofInt digits)) (powerOfTen places) =
        .ofDatum (.finite false (roundedProduct digits (10 ^ places))) := by
      rw [magnitude_ofInt (roundUnits_whole_lt seventeen (by decide)), powerOfTen_eq hplaces]
      rfl
    have finite := isInfinite_ofDatum
      (isDouble_roundUnits (roundedProduct_lt seventeen hplaces short))
    unfold scale?
    rw [Int.natAbs_natCast, if_pos hplaces, if_pos (Int.natCast_nonneg places), result]
    rw [roundedProduct]
    simp [finite]

end Number

end EntitySql
