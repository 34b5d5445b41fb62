/-
  The tolerance between floats.

  Two floats are near if both are finite and their units differ by less than the tolerance, which is
  `2 ^ -52` less half a step, since the difference is rounded before it is compared (`isNear_iff`). Past
  one, where the numbers lie `2 ^ -52` and more apart, only equal numbers are near (`eq_of_near`).
-/
import EntitySql.Proofs.Binary.Spacing

namespace EntitySql.Binary64

open Binary

/-- The least difference that is rounded to `2 ^ -52`, as a count of units. -/
def tolerance : Nat := 2 ^ 1022 - 2 ^ 968

/-- Where rounding passes from less than `2 ^ -52` to no less. -/
theorem rounded_tolerance : double.roundUnits (tolerance - 1) 1 < epsilonUnits ∧
    epsilonUnits ≤ double.roundUnits tolerance 1 := by decide +kernel

theorem tolerance_lt_epsilonUnits : 0 < tolerance ∧ tolerance < epsilonUnits := by decide +kernel

theorem epsilonUnits_le_limit : epsilonUnits ≤ limit := by decide +kernel

theorem roundUnits_lt_epsilonUnits_iff (n : Nat) :
    double.roundUnits n 1 < epsilonUnits ↔ n < tolerance := by
  constructor
  · intro less
    by_contra large
    have rounded : double.roundUnits tolerance 1 ≤ double.roundUnits n 1 :=
      double.roundUnits_mono (Nat.le_of_not_lt large)
    exact Nat.not_lt_of_le (Nat.le_trans rounded_tolerance.2 rounded) less
  · intro less
    have rounded : double.roundUnits n 1 ≤ double.roundUnits (tolerance - 1) 1 :=
      double.roundUnits_mono (Nat.le_sub_one_of_lt less)
    exact Nat.lt_of_le_of_lt rounded rounded_tolerance.1

variable {x y : Binary64} {u v : Int}

theorem isNear_iff_of_units (hx : x.units? = some u) (hy : y.units? = some v) :
    x.isNear y = true ↔ (u - v).natAbs < tolerance := by
  obtain ⟨a, m, datum_x, rfl⟩ := exists_finite hx
  obtain ⟨b, n, datum_y, rfl⟩ := exists_finite hy
  rw [isNear, sub, datum_x, datum_y, ← roundUnits_lt_epsilonUnits_iff]
  simp only
  generalize (if a = true then -(m : Int) else m) - (if b = true then -(n : Int) else n) = difference
  by_cases finite : double.roundUnits difference.natAbs 1 < limit
  · rw [datum_ofDatum _ (isDouble_roundUnits finite)]
    exact decide_eq_true_iff
  · have far := Nat.le_of_not_lt finite
    rw [datum_ofDatum_of_limit_le _ far]
    have large := Nat.le_trans epsilonUnits_le_limit far
    exact ⟨nofun, fun less => absurd less (Nat.not_lt_of_le large)⟩

theorem datum_nan : nan.datum = .nan := by decide

theorem datum_infinity (negative : Bool) : (infinity negative).datum = .infinite negative := by
  cases negative <;> decide

/-- Only finite floats have a finite difference. -/
theorem units?_of_isNear (h : x.isNear y = true) :
    (∃ u, x.units? = some u) ∧ ∃ v, y.units? = some v := by
  unfold isNear sub at h
  unfold units?
  split at h
  · next finite =>
    split at finite
    case h_1 | h_2 =>
      rw [datum_nan] at finite
      cases finite
    case h_3 =>
      split at finite
      · rw [datum_nan] at finite
        cases finite
      · rw [datum_infinity] at finite
        cases finite
    case h_4 | h_5 =>
      rw [datum_infinity] at finite
      cases finite
    case h_6 datum_x datum_y =>
      rw [datum_x, datum_y]
      exact ⟨⟨_, rfl⟩, ⟨_, rfl⟩⟩
  · cases h

/-- Finite floats are near if they differ by less than the tolerance, and others are near to none. -/
theorem isNear_iff :
    x.isNear y = true ↔
      ∃ u v, x.units? = some u ∧ y.units? = some v ∧ (u - v).natAbs < tolerance := by
  constructor
  · intro near
    obtain ⟨⟨u, hu⟩, v, hv⟩ := units?_of_isNear near
    exact ⟨u, v, hu, hv, (isNear_iff_of_units hu hv).1 near⟩
  · rintro ⟨u, v, hu, hv, near⟩
    exact (isNear_iff_of_units hu hv).2 near

/-- Past one, only equal numbers are near. -/
theorem eq_of_near (hu : IsDouble u.natAbs) (hv : IsDouble v.natAbs) (large : one < u.natAbs)
    (near : (u - v).natAbs < tolerance) : u = v := by
  obtain ⟨s, power, step, -⟩ := exists_one_eq
  have small := tolerance_lt_epsilonUnits.2
  rw [step] at small
  rw [power] at large
  -- Next to one there is no number for a step of `2 ^ -52`, so both numbers are multiples of it.
  have next := hu.add_le (Nat.le_refl _) (Nat.pow_dvd_pow 2 (Nat.le_add_left s 52)) large
  have whole_u : ((2 ^ s : Nat) : Int) ∣ u := Int.natCast_dvd.2 (hu.dvd (by omega))
  have whole_v : ((2 ^ s : Nat) : Int) ∣ v := Int.natCast_dvd.2 (hv.dvd (by omega))
  have none := Int.eq_zero_of_dvd_of_natAbs_lt_natAbs (Int.dvd_sub whole_u whole_v)
    (by rw [Int.natAbs_natCast]; omega)
  omega

end EntitySql.Binary64
