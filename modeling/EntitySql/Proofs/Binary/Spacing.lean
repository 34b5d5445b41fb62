/-
  How far apart the numbers of double precision are.

  From `2 ^ (52 + s)` units on they are multiples of `2 ^ s` units (`IsDouble.dvd`), so next to such a
  multiple there is no other number for so many units. A whole number of up to 53 bits is a number of
  double precision, and no larger one is rounded to less than `2 ^ 53` (`units?_ofInt_of_lt`,
  `le_units_ofInt`).
-/
import EntitySql.Proofs.Binary.Rounding

namespace EntitySql

namespace Binary

theorem IsDouble.dvd {units s : Nat} (h : IsDouble units) (large : 2 ^ (52 + s) ≤ units) :
    2 ^ s ∣ units := by
  have step : double.step (2 ^ (52 + s)) = s :=
    double.step_eq (.inr (Nat.le_refl _)) (Nat.pow_lt_pow_right (by decide) (Nat.lt_succ_self _))
  have steps := double.step_mono large
  rw [step] at steps
  exact Nat.dvd_trans (Nat.pow_dvd_pow 2 steps) h.step_dvd

/-- The next number is a full step away. -/
theorem IsDouble.add_le {units low s : Nat} (h : IsDouble units) (large : 2 ^ (52 + s) ≤ low)
    (whole : 2 ^ s ∣ low) (less : low < units) : low + 2 ^ s ≤ units := by
  obtain ⟨m, rfl⟩ := whole
  obtain ⟨n, rfl⟩ := h.dvd (Nat.le_trans large (Nat.le_of_lt less))
  have order : m < n := Nat.lt_of_mul_lt_mul_left less
  calc 2 ^ s * m + 2 ^ s = 2 ^ s * (m + 1) := (Nat.mul_succ _ _).symm
    _ ≤ 2 ^ s * n := Nat.mul_le_mul_left _ order

/-- A multiple of a power of two that leaves at most 53 bits is a number of double precision. -/
theorem isDouble_of_dvd {units s : Nat} (whole : 2 ^ s ∣ units) (small : units < 2 ^ (53 + s))
    (bounded : units < limit) : IsDouble units := by
  refine ⟨Nat.dvd_trans (Nat.pow_dvd_pow 2 ?_) whole, bounded⟩
  by_contra more
  have low := double.two_pow_step_le (u := units) (by omega)
  have powers : 2 ^ (53 + s) ≤ 2 ^ (double.fractionBits + double.step units) :=
    Nat.pow_le_pow_right (by decide) (by simp only [double] at more ⊢; omega)
  omega

end Binary

namespace Binary64

open Binary

/-- One is `2 ^ 52` times `2 ^ -52`, and its multiples of 64 bits stay below the limit. -/
theorem exists_one_eq : ∃ s, one = 2 ^ (52 + s) ∧ epsilonUnits = 2 ^ s ∧ 116 + s ≤ 2098 :=
  ⟨1022, by decide +kernel, by decide +kernel, by decide⟩

theorem isDouble_whole {n : Nat} (h : n < 2 ^ 53) : IsDouble (n * one) := by
  obtain ⟨s, power, -, bounded⟩ := exists_one_eq
  have small : n * one < 2 ^ (53 + (52 + s)) := by
    rw [power, Nat.pow_add 2 53]
    exact Nat.mul_lt_mul_of_pos_right h (Nat.two_pow_pos _)
  refine isDouble_of_dvd ?_ small (Nat.lt_of_lt_of_le small (two_pow_le_limit (by omega)))
  rw [power]
  exact Nat.dvd_mul_left _ _

theorem exists_finite {x : Binary64} {u : Int} (h : x.units? = some u) :
    ∃ negative units, x.datum = .finite negative units ∧
      u = if negative then -(units : Int) else units := by
  unfold units? Datum.units? at h
  split at h
  · next negative units finite => exact ⟨negative, units, finite, (Option.some.inj h).symm⟩
  · cases h

/-- A float is infinite, NaN or a number. -/
theorem isInfinite_eq_false_iff {x : Binary64} :
    x.isInfinite = false ↔ x.isNaN = true ∨ ∃ u, x.units? = some u := by
  unfold isInfinite isNaN units? Datum.units?
  cases x.datum <;> simp

theorem isDouble_natAbs {x : Binary64} {u : Int} (h : x.units? = some u) : IsDouble u.natAbs := by
  obtain ⟨negative, units, finite, rfl⟩ := exists_finite h
  have double := (ofDatum_datum finite).1
  split
  · rwa [Int.natAbs_neg]
  · exact double

/-! ## Integers as numbers of double precision -/

theorem isDouble_power {n : Nat} (h : n < 64) : IsDouble (2 ^ n * one) := by
  obtain ⟨s, power, -, bounded⟩ := exists_one_eq
  rw [power, ← Nat.pow_add]
  generalize places : n + (52 + s) = p
  have below : 2 ^ p < 2 ^ (53 + p) := Nat.pow_lt_pow_right (by decide) (by omega)
  have next : 2 ^ p < 2 ^ (p + 1) := Nat.pow_lt_pow_right (by decide) (Nat.lt_succ_self _)
  exact isDouble_of_dvd (Nat.dvd_refl _) below (Nat.lt_of_lt_of_le next (two_pow_le_limit (by omega)))

/-- The float nearest to an integer of 64 bits is finite. -/
theorem units?_ofInt {i : Int} (h : i.natAbs ≤ 2 ^ 63) :
    (ofInt i).units? = some (if i < 0 then -(double.roundUnits (i.natAbs * one) 1 : Int)
      else double.roundUnits (i.natAbs * one) 1) := by
  have word : IsDouble (2 ^ 63 * one) := isDouble_power (by decide)
  have most : double.roundUnits (i.natAbs * one) 1 ≤ 2 ^ 63 * one :=
    roundUnits_le_of_isDouble word (by decide) (by
      rw [Nat.mul_one]
      exact Nat.mul_le_mul_right _ h)
  have finite := isDouble_roundUnits (Nat.lt_of_le_of_lt most word.bounded)
  rw [units?, ofInt, ofQuotient, datum_ofDatum _ finite, Datum.units?]
  simp only [decide_eq_true_eq]

theorem natAbs_units_ofInt {i u : Int} (h : i.natAbs ≤ 2 ^ 63) (units : (ofInt i).units? = some u) :
    u.natAbs = double.roundUnits (i.natAbs * one) 1 := by
  rw [units?_ofInt h] at units
  cases units
  split
  · exact (Int.natAbs_neg _).trans (Int.natAbs_natCast _)
  · exact Int.natAbs_natCast _

/-- An integer of at most 53 bits is kept. -/
theorem units?_ofInt_of_lt {i : Int} (small : i.natAbs < 2 ^ 53) :
    (ofInt i).units? = some (i * one) := by
  rw [units?_ofInt (Nat.le_trans (Nat.le_of_lt small) (by decide)),
    roundUnits_one_of_isDouble (isDouble_whole small), Int.natCast_mul]
  split
  · next negative => rw [← Int.neg_mul, show -(i.natAbs : Int) = i by omega]
  · next natural => rw [show (i.natAbs : Int) = i by omega]

/-- A larger integer does not become a number below `2 ^ 53`. -/
theorem le_units_ofInt {i u : Int} (large : 2 ^ 53 ≤ i.natAbs) (h : i.natAbs ≤ 2 ^ 63)
    (units : (ofInt i).units? = some u) : 2 ^ 53 * one ≤ u.natAbs := by
  have kept : double.roundUnits (2 ^ 53 * one) 1 = 2 ^ 53 * one :=
    roundUnits_one_of_isDouble (isDouble_power (by decide))
  rw [natAbs_units_ofInt h units, ← kept]
  exact double.roundUnits_mono (Nat.mul_le_mul_right _ large)

/-- Integers with the same units become the same float, zero apart, which has two signs. -/
theorem ofInt_eq_of_units {i j u : Int} (hi : i.natAbs ≤ 2 ^ 63) (hj : j.natAbs ≤ 2 ^ 63)
    (units_i : (ofInt i).units? = some u) (units_j : (ofInt j).units? = some u) (some_unit : u ≠ 0) :
    ofInt i = ofInt j := by
  have size_i := natAbs_units_ofInt hi units_i
  have size_j := natAbs_units_ofInt hj units_j
  rw [units?_ofInt hi, ← size_i, Option.some.injEq] at units_i
  rw [units?_ofInt hj, ← size_j, Option.some.injEq] at units_j
  have sign : i < 0 ↔ j < 0 := by omega
  rw [ofInt, ofInt, ofQuotient, ofQuotient, ← size_i, ← size_j, decide_eq_decide.2 sign]

end Binary64

end EntitySql
