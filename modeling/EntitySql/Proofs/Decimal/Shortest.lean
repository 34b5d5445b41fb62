/-
  The shortest decimal number of a double-precision number: it lies in the interval of the reals that
  round to that number, so rounding it gives the number back (`shortest_spec`, `significant_shortest`),
  and it has at most seventeen digits.

  Numbers are compared without fractions: a decimal number is its digits times ten to the positive part
  of the exponent, over ten to the negative part, and one is `Binary64.one` units.
-/
import EntitySql.Decimal.Shortest
import EntitySql.Proofs.Binary.Rounding
import EntitySql.Proofs.Text.Digits
import Mathlib.Data.List.TakeWhile

namespace EntitySql

open Binary

namespace Decimal

/-- The count of units nearest to a decimal number. -/
def unitsOf (digits : Nat) (exponent : Int) : Nat :=
  double.roundUnits (digits * 10 ^ exponent.toNat * Binary64.one) (10 ^ (-exponent).toNat)

theorem unitsOf_zero (exponent : Int) : unitsOf 0 exponent = 0 := by
  rw [unitsOf, Nat.zero_mul, Nat.zero_mul, double.roundUnits_zero]

/-! ## The interval of a number -/

/-- How far down the reals reach that round to a number, in quarters of a unit: half a step, but a
quarter of one from a power of two, below which the numbers lie twice as dense. -/
def gapBelow (units : Nat) : Nat :=
  if 0 < double.step units ∧ units = 2 ^ (double.step units + 52) then 2 ^ double.step units
  else 2 * 2 ^ double.step units

theorem ofUnits_eq (units : Nat) :
    Interval.ofUnits units =
      { low := 4 * units - gapBelow units, centre := 4 * units
        high := 4 * units + 2 * 2 ^ double.step units
        closed := units / 2 ^ double.step units % 2 = 0 } := by
  unfold Interval.ofUnits gapBelow
  simp only [Bool.and_eq_true, decide_eq_true_eq, Nat.pow_eq]
  rfl

theorem gapBelow_le {units : Nat} (positive : 0 < units) : gapBelow units ≤ 4 * units := by
  have small : 2 ^ double.step units ≤ units := by
    by_cases zero : double.step units = 0
    · rw [zero]
      exact positive
    · have low := double.two_pow_step_le zero
      exact Nat.le_trans (Nat.pow_le_pow_right (by decide) (by omega)) low
  unfold gapBelow
  split <;> omega

/-- What the interval contains, without subtraction. -/
theorem contains_iff {units : Nat} (positive : 0 < units) (scale x : Nat) :
    (Interval.ofUnits units).contains scale x = true ↔
      4 * units * scale ≤ x + gapBelow units * scale ∧
      x ≤ 4 * units * scale + 2 * 2 ^ double.step units * scale ∧
      (4 * units * scale = x + gapBelow units * scale ∨
        x = 4 * units * scale + 2 * 2 ^ double.step units * scale →
        units / 2 ^ double.step units % 2 = 0) := by
  have below := Nat.mul_le_mul_right scale (gapBelow_le positive)
  unfold Interval.contains
  rw [ofUnits_eq]
  simp only [Nat.sub_mul, Nat.add_mul]
  split
  · next even =>
    simp only [Bool.and_eq_true, decide_eq_true_eq] at even ⊢
    omega
  · next odd =>
    simp only [Bool.and_eq_true, decide_eq_true_eq] at odd ⊢
    omega

/-- Below a power of two, half a step of the numbers there is near enough. -/
theorem roundUnits_below_power {num den s : Nat} (hden : 0 < den)
    (low : 4 * 2 ^ (s + 53) * den ≤ 4 * num + 2 ^ (s + 1) * den) (high : num < 2 ^ (s + 53) * den) :
    double.roundUnits num den = 2 ^ (s + 53) := by
  have power : 2 ^ (s + 53) = 2 ^ 53 * 2 ^ s := by rw [Nat.pow_add, Nat.mul_comm]
  have half : 2 ^ (s + 1) = 2 * 2 ^ s := by rw [Nat.pow_succ, Nat.mul_comm]
  rw [power, Nat.mul_assoc] at high
  rw [power, half, ← Nat.mul_assoc, Nat.mul_assoc _ _ den, Nat.mul_assoc 2 _ den] at low
  have step : double.step (num / den) = s := by
    apply double.step_eq
    · right
      rw [Nat.le_div_iff_mul_le hden, Nat.pow_add, Nat.mul_assoc]
      show 2 ^ 52 * (2 ^ s * den) ≤ num
      omega
    · rw [Nat.div_lt_iff_lt_mul hden, Nat.add_right_comm, Nat.pow_add, Nat.mul_assoc]
      exact high
  rw [power]
  apply double.roundUnits_eq hden step
  · rw [Nat.mul_assoc]
    omega
  · rw [Nat.mul_assoc]
    omega
  · exact fun _ => rfl

/-- Within half a step of a number the step is the same, below a power of two apart. -/
theorem step_near {num den q s : Nat} (hden : 0 < den) (most : q < 2 ^ 53) (least : s = 0 ∨ 2 ^ 52 ≤ q)
    (low : 2 * (q * (2 ^ s * den)) ≤ 2 * num + 2 ^ s * den)
    (high : 2 * num ≤ 2 * (q * (2 ^ s * den)) + 2 ^ s * den)
    (inside : q * (2 ^ s * den) ≤ num ∨ s = 0 ∨ q ≠ 2 ^ 52) : double.step (num / den) = s := by
  have full : 2 ^ (52 + s) = 2 ^ 52 * 2 ^ s := Nat.pow_add 2 52 s
  apply double.step_eq
  · rcases least with zero | least
    · exact .inl zero
    · refine Classical.or_iff_not_imp_left.2 fun some_step => ?_
      rw [Nat.le_div_iff_mul_le hden]
      show 2 ^ (52 + s) * den ≤ num
      rw [full, Nat.mul_assoc]
      rcases inside with above | zero | no_power
      · exact Nat.le_trans (Nat.mul_le_mul_right _ least) above
      · exact absurd zero some_step
      · have next : (2 ^ 52 + 1) * (2 ^ s * den) ≤ q * (2 ^ s * den) :=
          Nat.mul_le_mul_right _ (by omega)
        rw [Nat.add_mul, Nat.one_mul] at next
        omega
  · rw [Nat.div_lt_iff_lt_mul hden]
    show num < 2 ^ (52 + s + 1) * den
    have next : (q + 1) * (2 ^ s * den) ≤ 2 ^ 53 * (2 ^ s * den) := Nat.mul_le_mul_right _ most
    have some_width : 0 < 2 ^ s * den := Nat.mul_pos (Nat.two_pow_pos s) hden
    rw [Nat.add_mul, Nat.one_mul] at next
    rw [Nat.pow_succ, full, Nat.mul_right_comm, Nat.mul_assoc _ _ den]
    omega

/-- Half a step of the number itself is near enough from above, and from below unless the number is a
power of two. -/
theorem roundUnits_near {units num den : Nat} (h : IsDouble units) (hden : 0 < den)
    (low : 2 * (units * den) ≤ 2 * num + 2 ^ double.step units * den)
    (high : 2 * num ≤ 2 * (units * den) + 2 ^ double.step units * den)
    (tie : 2 * (units * den) = 2 * num + 2 ^ double.step units * den ∨
      2 * num = 2 * (units * den) + 2 ^ double.step units * den →
      units / 2 ^ double.step units % 2 = 0)
    (inside : units * den ≤ num ∨ double.step units = 0 ∨ units ≠ 2 ^ (double.step units + 52)) :
    double.roundUnits num den = units := by
  obtain ⟨q, hq, most, least⟩ := h.exists_leading
  generalize double.step units = s at *
  have product : units * den = q * (2 ^ s * den) := by rw [hq, Nat.mul_assoc]
  have quotient : units / 2 ^ s = q := by rw [hq, Nat.mul_div_cancel _ (Nat.two_pow_pos s)]
  have power : units = 2 ^ (s + 52) ↔ q = 2 ^ 52 := by
    rw [hq, Nat.add_comm, Nat.pow_add, Nat.mul_left_inj (Nat.two_pow_pos s).ne']
  rw [quotient] at tie
  rw [Ne, power] at inside
  have step : double.step (num / den) = s := by
    apply step_near hden most least
    all_goals rwa [← product]
  rw [hq] at low high tie ⊢
  exact double.roundUnits_eq hden step low high tie

/-- What lies in the interval of a number rounds to it. -/
theorem roundUnits_of_contains {units num den : Nat} (positive : 0 < units) (h : IsDouble units)
    (hden : 0 < den) (near : (Interval.ofUnits units).contains den (4 * num) = true) :
    double.roundUnits num den = units := by
  obtain ⟨low, high, tie⟩ := (contains_iff positive den (4 * num)).1 near
  have some_width : 0 < 2 ^ double.step units * den := Nat.mul_pos (Nat.two_pow_pos _) hden
  rw [Nat.mul_assoc 2] at high tie
  rw [Nat.mul_assoc 4] at low high tie
  by_cases power : 0 < double.step units ∧ units = 2 ^ (double.step units + 52)
  · rw [gapBelow, if_pos power] at low tie
    by_cases less : num < units * den
    · obtain ⟨some_step, power⟩ := power
      obtain ⟨s, step⟩ := Nat.exists_eq_add_of_lt some_step
      rw [Nat.zero_add] at step
      rw [step, Nat.add_assoc] at power
      rw [step] at low
      rw [power] at low less ⊢
      exact roundUnits_below_power hden (by rwa [Nat.mul_assoc]) less
    · exact roundUnits_near h hden (by omega) (by omega) (by omega) (.inl (by omega))
  · rw [gapBelow, if_neg power, Nat.mul_assoc 2] at low tie
    refine roundUnits_near h hden (by omega) (by omega) (by omega) (.inr ?_)
    omega

/-! ## The decimal point -/

/-- The factor that makes every positive count of units at least one. -/
def widening : Nat := 10 ^ 343

/-- How the units of one compare with other large numbers. -/
structure Sizes : Prop where
  large_one : 2 ^ 60 ≤ Binary64.one
  one_kept : double.roundUnits (1 * Binary64.one) 1 = Binary64.one
  one_le_widening : Binary64.one ≤ widening
  limit_le_power : limit ≤ 10 ^ 309 * Binary64.one
  limit_widened_le : limit * widening ≤ 10 ^ 652 * Binary64.one

-- The kernel computes with numbers of hundreds of digits, which no tactic does.
theorem sizes : Sizes where
  large_one := by decide +kernel
  one_kept := by decide +kernel
  one_le_widening := by decide +kernel
  limit_le_power := by decide +kernel
  limit_widened_le := by decide +kernel

theorem some_one : 0 < Binary64.one := Nat.lt_of_lt_of_le (Nat.two_pow_pos 60) sizes.large_one

theorem some_widening : 0 < widening := by
  rw [widening]
  positivity

/-- The size of a number in digits before the point, as two powers of ten. -/
theorem exists_point {units : Nat} (positive : 0 < units) : ∃ places : Nat,
    pointOfUnits units = (places + 1 : Nat) - 343 ∧
    10 ^ places * Binary64.one ≤ units * widening ∧
    units * widening < 10 ^ (places + 1) * Binary64.one := by
  have whole : 0 < units * widening / Binary64.one :=
    Nat.div_pos (Nat.le_trans sizes.one_le_widening (Nat.le_mul_of_pos_left _ positive)) some_one
  have length : 0 < (Nat.toDigits 10 (units * widening / Binary64.one)).length :=
    List.length_pos_iff.2 Nat.toDigits_ne_nil
  obtain ⟨places, hplaces⟩ := Nat.exists_eq_add_of_le' length
  refine ⟨places, ?_, ?_, ?_⟩
  · rw [pointOfUnits, Nat.pow_eq, ← widening, hplaces]
  · rw [← Nat.le_div_iff_mul_le some_one]
    rcases Nat.eq_zero_or_pos places with rfl | some_places
    · exact whole
    · by_contra less
      have short := Text.length_toDigits_le some_places (Nat.lt_of_not_le less)
      omega
  · rw [← Nat.div_lt_iff_lt_mul some_one]
    exact (Nat.length_toDigits_le_iff (by decide) (Nat.succ_pos places)).1 (by omega)

/-! ## The grid of a number of digits -/

section Grid

variable {units places k : Nat} {exponent : Int}

/-- The grid for `k` digits of a number, as a multiple of the power of ten above the number. -/
theorem cell_mul (hexponent : exponent = (places + 1 : Nat) - 343 - k) :
    4 * Binary64.one * 10 ^ exponent.toNat * (widening * 10 ^ k) =
      4 * Binary64.one * 10 ^ (places + 1) * 10 ^ (-exponent).toNat := by
  have powers : exponent.toNat + (343 + k) = (places + 1) + (-exponent).toNat := by omega
  have shift : widening * 10 ^ k = 10 ^ (343 + k) := by rw [widening, Nat.pow_add]
  rw [shift, Nat.mul_assoc, ← Nat.pow_add, powers, Nat.pow_add, ← Nat.mul_assoc]

theorem le_floor (hexponent : exponent = (places + 1 : Nat) - 343 - (k + 1 : Nat))
    (low : 10 ^ places * Binary64.one ≤ units * widening) :
    10 ^ k * (4 * Binary64.one * 10 ^ exponent.toNat) ≤ 4 * units * 10 ^ (-exponent).toNat := by
  apply Nat.le_of_mul_le_mul_right _ (Nat.mul_pos some_widening (Nat.pow_pos (n := k + 1) (a := 10) (by decide)))
  calc 10 ^ k * (4 * Binary64.one * 10 ^ exponent.toNat) * (widening * 10 ^ (k + 1))
      = 10 ^ k * (4 * Binary64.one * 10 ^ (places + 1) * 10 ^ (-exponent).toNat) := by
        rw [Nat.mul_assoc, cell_mul hexponent]
    _ = 4 * (10 ^ places * Binary64.one) * 10 ^ (-exponent).toNat * 10 ^ (k + 1) := by ring
    _ ≤ 4 * (units * widening) * 10 ^ (-exponent).toNat * 10 ^ (k + 1) :=
        Nat.mul_le_mul_right _ (Nat.mul_le_mul_right _ (Nat.mul_le_mul_left 4 low))
    _ = 4 * units * 10 ^ (-exponent).toNat * (widening * 10 ^ (k + 1)) := by ring

theorem floor_lt (hexponent : exponent = (places + 1 : Nat) - 343 - k)
    (high : units * widening < 10 ^ (places + 1) * Binary64.one) :
    4 * units * 10 ^ (-exponent).toNat < 10 ^ k * (4 * Binary64.one * 10 ^ exponent.toNat) := by
  apply Nat.lt_of_mul_lt_mul_right (a := widening * 10 ^ k)
  have some_scale : 0 < 10 ^ (-exponent).toNat * 10 ^ k :=
    Nat.mul_pos (Nat.pow_pos (by decide)) (Nat.pow_pos (by decide))
  calc 4 * units * 10 ^ (-exponent).toNat * (widening * 10 ^ k)
      = 4 * (units * widening) * (10 ^ (-exponent).toNat * 10 ^ k) := by ring
    _ < 4 * (10 ^ (places + 1) * Binary64.one) * (10 ^ (-exponent).toNat * 10 ^ k) :=
        Nat.mul_lt_mul_of_pos_right (Nat.mul_lt_mul_of_pos_left high (by decide)) some_scale
    _ = 10 ^ k * (4 * Binary64.one * 10 ^ (places + 1) * 10 ^ (-exponent).toNat) := by ring
    _ = 10 ^ k * (4 * Binary64.one * 10 ^ exponent.toNat) * (widening * 10 ^ k) := by
        rw [Nat.mul_assoc (10 ^ k), cell_mul hexponent]

/-- With seventeen digits, a cell of the grid is narrower than the interval. -/
theorem cell_lt (hexponent : exponent = (places + 1 : Nat) - 343 - (17 : Nat))
    (low : 10 ^ places * Binary64.one ≤ units * widening) :
    4 * Binary64.one * 10 ^ exponent.toNat <
      (gapBelow units + 2 * 2 ^ double.step units) * 10 ^ (-exponent).toNat := by
  have width : 40 * units < (gapBelow units + 2 * 2 ^ double.step units) * 10 ^ 17 := by
    have most := double.lt_two_pow_step units
    have half : 2 ^ (double.fractionBits + double.step units + 1) = 2 ^ 53 * 2 ^ double.step units := by
      rw [← Nat.pow_add]
      exact congrArg _ (by simp only [double]; omega)
    rw [half] at most
    unfold gapBelow
    split
    · next power =>
      have boundary := power.2
      rw [Nat.pow_add] at boundary
      omega
    · omega
  apply Nat.lt_of_mul_lt_mul_right (a := widening * 10 ^ 17)
  have some_scale : 0 < 10 ^ (-exponent).toNat * widening :=
    Nat.mul_pos (Nat.pow_pos (by decide)) some_widening
  calc 4 * Binary64.one * 10 ^ exponent.toNat * (widening * 10 ^ 17)
      = 40 * (10 ^ places * Binary64.one) * 10 ^ (-exponent).toNat := by
        rw [cell_mul hexponent]
        ring
    _ ≤ 40 * (units * widening) * 10 ^ (-exponent).toNat :=
        Nat.mul_le_mul_right _ (Nat.mul_le_mul_left 40 low)
    _ = 40 * units * (10 ^ (-exponent).toNat * widening) := by ring
    _ < (gapBelow units + 2 * 2 ^ double.step units) * 10 ^ 17 * (10 ^ (-exponent).toNat * widening) :=
        Nat.mul_lt_mul_of_pos_right width some_scale
    _ = (gapBelow units + 2 * 2 ^ double.step units) * 10 ^ (-exponent).toNat * (widening * 10 ^ 17) := by
        ring

/-! ## The nearest number of a grid -/

theorem nearestOnGrid?_eq_some {tie : Tie} {d : Decimal}
    (h : nearestOnGrid? tie (Interval.ofUnits units) exponent = some d) :
    d.exponent = exponent ∧
    (Interval.ofUnits units).contains (10 ^ (-exponent).toNat)
      (d.digits * (4 * Binary64.one * 10 ^ exponent.toNat)) = true ∧
    4 * units * 10 ^ (-exponent).toNat / (4 * Binary64.one * 10 ^ exponent.toNat) ≤ d.digits ∧
    d.digits ≤ 4 * units * 10 ^ (-exponent).toNat / (4 * Binary64.one * 10 ^ exponent.toNat) + 1 := by
  have centre : (Interval.ofUnits units).centre = 4 * units := rfl
  unfold nearestOnGrid? at h
  simp only [Nat.pow_eq, centre] at h
  generalize 4 * units * 10 ^ (-exponent).toNat / (4 * Binary64.one * 10 ^ exponent.toNat) = floor at *
  split at h
  · next down up =>
    cases h
    have chosen : ∀ takeUp : Bool, (Interval.ofUnits units).contains (10 ^ (-exponent).toNat)
        ((if takeUp then floor + 1 else floor) * (4 * Binary64.one * 10 ^ exponent.toNat)) = true ∧
        floor ≤ (if takeUp then floor + 1 else floor) ∧
        (if takeUp then floor + 1 else floor) ≤ floor + 1 := by
      intro takeUp
      cases takeUp
      · exact ⟨down, Nat.le_refl floor, Nat.le_succ floor⟩
      · exact ⟨up, Nat.le_succ floor, Nat.le_refl _⟩
    exact ⟨rfl, chosen _⟩
  · next down _ =>
    cases h
    exact ⟨rfl, down, Nat.le_refl floor, Nat.le_succ floor⟩
  · next _ up =>
    cases h
    exact ⟨rfl, up, Nat.le_succ floor, Nat.le_refl _⟩
  · cases h

/-- If the cells of a grid are narrower than the interval, one of the neighbours of its centre lies
in it. -/
theorem contains_neighbour {scale cell : Nat} (positive : 0 < units) (some_scale : 0 < scale)
    (some_cell : 0 < cell) (narrow : cell < (gapBelow units + 2 * 2 ^ double.step units) * scale) :
    (Interval.ofUnits units).contains scale (4 * units * scale / cell * cell) = true ∨
    (Interval.ofUnits units).contains scale ((4 * units * scale / cell + 1) * cell) = true := by
  have floor := Nat.div_add_mod (4 * units * scale) cell
  have rest := Nat.mod_lt (4 * units * scale) some_cell
  have some_width : 0 < 2 * 2 ^ double.step units * scale :=
    Nat.mul_pos (Nat.mul_pos (by decide) (Nat.two_pow_pos _)) some_scale
  rw [Nat.mul_comm] at floor
  rw [Nat.add_mul] at narrow
  rw [contains_iff positive, contains_iff positive, Nat.add_mul, Nat.one_mul]
  by_cases near : 4 * units * scale < 4 * units * scale / cell * cell + gapBelow units * scale
  · left
    omega
  · right
    omega

/-- A grid whose cells are narrower than the interval has a number in it. -/
theorem isSome_nearestOnGrid? (tie : Tie) (positive : 0 < units)
    (narrow : 4 * Binary64.one * 10 ^ exponent.toNat <
      (gapBelow units + 2 * 2 ^ double.step units) * 10 ^ (-exponent).toNat) :
    (nearestOnGrid? tie (Interval.ofUnits units) exponent).isSome := by
  have centre : (Interval.ofUnits units).centre = 4 * units := rfl
  have neighbour := contains_neighbour positive (Nat.pow_pos (by decide))
    (Nat.mul_pos (Nat.mul_pos (by decide) some_one) (Nat.pow_pos (by decide))) narrow
  unfold nearestOnGrid?
  simp only [Nat.pow_eq, centre]
  split
  · rfl
  · rfl
  · rfl
  · next down up =>
    rw [down, up] at neighbour
    cases neighbour <;> contradiction

end Grid

/-! ## The shortest number -/

/-- The search ends at the first grid that has a number in the interval, if there is one. -/
theorem shortestFrom_spec (tie : Tie) {i : Interval} {point : Int} (tries : Nat) {digits : Nat}
    (found : (nearestOnGrid? tie i (point - (digits + tries : Nat))).isSome) :
    ∃ k d, digits ≤ k ∧ k ≤ digits + tries ∧ shortestFrom tie i point digits (tries + 1) = d ∧
      nearestOnGrid? tie i (point - k) = some d := by
  induction tries generalizing digits with
  | zero =>
    obtain ⟨d, hd⟩ := Option.isSome_iff_exists.1 found
    rw [Nat.add_zero] at hd
    refine ⟨digits, d, Nat.le_refl _, Nat.le_refl _, ?_, hd⟩
    rw [shortestFrom, hd]
  | succ tries ih =>
    cases hd : nearestOnGrid? tie i (point - digits) with
    | some d =>
      refine ⟨digits, d, Nat.le_refl _, Nat.le_add_right _ _, ?_, hd⟩
      rw [shortestFrom, hd]
    | none =>
      have later : digits + (tries + 1) = digits + 1 + tries := by omega
      rw [later] at found
      obtain ⟨k, d, least, most, first, number⟩ := ih found
      refine ⟨k, d, by omega, by omega, ?_, number⟩
      rw [shortestFrom, hd]
      exact first

/-- The shortest number has at most seventeen digits, and it lies in the interval. -/
theorem shortest_spec (tie : Tie) {units : Nat} (positive : 0 < units) : ∃ k < 17, ∃ places : Nat,
    10 ^ places * Binary64.one ≤ units * widening ∧
    (shortest tie units).exponent = (places + 1 : Nat) - 343 - (k + 1 : Nat) ∧
    10 ^ k ≤ (shortest tie units).digits ∧ (shortest tie units).digits ≤ 10 ^ (k + 1) ∧
    (Interval.ofUnits units).contains (10 ^ (-(shortest tie units).exponent).toNat)
      ((shortest tie units).digits *
        (4 * Binary64.one * 10 ^ (shortest tie units).exponent.toNat)) = true := by
  obtain ⟨places, point, low, high⟩ := exists_point positive
  have last := isSome_nearestOnGrid? tie positive (cell_lt rfl low)
  obtain ⟨k, d, least, most, first, number⟩ := shortestFrom_spec tie 16 last
  obtain ⟨k, rfl⟩ := Nat.exists_eq_add_of_le' least
  obtain ⟨exponent, contained, floor_le, le_ceil⟩ := nearestOnGrid?_eq_some number
  have shortest_eq : shortest tie units = d := by rw [shortest, point, first]
  have some_cell : 0 < 4 * Binary64.one *
      10 ^ ((places + 1 : Nat) - 343 - (k + 1 : Nat) : Int).toNat :=
    Nat.mul_pos (Nat.mul_pos (by decide) some_one) (Nat.pow_pos (by decide))
  have least_floor := (Nat.le_div_iff_mul_le some_cell).2 (le_floor rfl low)
  have most_floor := (Nat.div_lt_iff_lt_mul some_cell).2 (floor_lt (k := k + 1) rfl high)
  rw [shortest_eq, exponent]
  exact ⟨k, by omega, places, low, rfl, by omega, by omega, contained⟩

/-- The shortest number rounds to the number it was made for. -/
theorem unitsOf_shortest (tie : Tie) {units : Nat} (positive : 0 < units) (h : IsDouble units) :
    unitsOf (shortest tie units).digits (shortest tie units).exponent = units := by
  obtain ⟨_, _, _, _, _, _, _, contained⟩ := shortest_spec tie positive
  apply roundUnits_of_contains positive h (Nat.pow_pos (by decide))
  have quarters : 4 * ((shortest tie units).digits * 10 ^ (shortest tie units).exponent.toNat *
      Binary64.one) = (shortest tie units).digits *
        (4 * Binary64.one * 10 ^ (shortest tie units).exponent.toNat) := by ring
  rw [quarters]
  exact contained

/-! ## Significant digits -/

/-- Digits without the zeros at their end, and how many those are. -/
theorem exists_zeros (digits : List Char) : ∃ zeros : Nat,
    digits = (digits.reverse.dropWhile (· = '0')).reverse ++ List.replicate zeros '0' := by
  refine ⟨(digits.reverse.takeWhile (· = '0')).length, ?_⟩
  have zeros : (digits.reverse.takeWhile (· = '0')).reverse =
      List.replicate (digits.reverse.takeWhile (· = '0')).length '0' := by
    rw [← List.length_reverse, List.eq_replicate_iff]
    refine ⟨rfl, fun c hc => ?_⟩
    have zero := List.mem_takeWhile_imp (List.mem_reverse.1 hc)
    exact of_decide_eq_true zero
  rw [← zeros, ← List.reverse_append, List.takeWhile_append_dropWhile, List.reverse_reverse]

/-- The significant digits of a number that is not zero make the number again with the zeros behind
them. -/
theorem significant_spec {d : Decimal} (positive : 0 < d.digits) : ∃ zeros : Nat,
    Text.IsDigits d.significant.1 ∧ d.significant.1 ≠ [] ∧ d.significant.1.head? ≠ some '0' ∧
    Text.digitsValue d.significant.1 * 10 ^ zeros = d.digits ∧
    d.significant.1.length + zeros = (Nat.toDigits 10 d.digits).length ∧
    d.significant.2 = d.significant.1.length + zeros + d.exponent := by
  obtain ⟨zeros, split⟩ : ∃ zeros, Nat.toDigits 10 d.digits =
      d.significant.1 ++ List.replicate zeros '0' := exists_zeros (Nat.toDigits 10 d.digits)
  have digits := Text.isDigits_toDigits d.digits
  have value := Text.digitsValue_toDigits d.digits
  have head := Text.head?_toDigits_ne positive
  have length := congrArg List.length split
  rw [List.length_append, List.length_replicate] at length
  rw [split] at digits head
  rw [split, Text.digitsValue_append, Text.digitsValue_replicate_zero, List.length_replicate,
    Nat.add_zero] at value
  have some_digit : d.significant.1 ≠ [] := by
    intro none
    rw [none] at value
    have zero : Text.digitsValue [] * 10 ^ zeros = 0 := Nat.zero_mul _
    omega
  refine ⟨zeros, fun c hc => digits c (List.mem_append_left _ hc), some_digit, ?_, value,
    length.symm, ?_⟩
  · rwa [List.head?_append_of_ne_nil _ some_digit] at head
  · have point : d.significant.2 = (Nat.toDigits 10 d.digits).length + d.exponent := rfl
    rw [point, length, Nat.cast_add]

/-- Zeros at the end of the digits may be counted in the exponent. -/
theorem unitsOf_mul_pow (digits zeros : Nat) (exponent : Int) :
    unitsOf (digits * 10 ^ zeros) exponent = unitsOf digits (exponent + zeros) := by
  have powers : zeros + exponent.toNat + (-(exponent + zeros)).toNat =
      (exponent + zeros).toNat + (-exponent).toNat := by omega
  apply double.roundUnits_congr (Nat.pow_pos (by decide)) (Nat.pow_pos (by decide))
  calc digits * 10 ^ zeros * 10 ^ exponent.toNat * Binary64.one * 10 ^ (-(exponent + zeros)).toNat
      = digits * Binary64.one * 10 ^ (zeros + exponent.toNat + (-(exponent + zeros)).toNat) := by
        rw [Nat.pow_add, Nat.pow_add]
        ring
    _ = digits * 10 ^ (exponent + zeros).toNat * Binary64.one * 10 ^ (-exponent).toNat := by
        rw [powers, Nat.pow_add]
        ring

/-- What is known of the digits and the decimal point that a positive count of units is written with. -/
structure Spells (digits : List Char) (point : Int) (units : Nat) : Prop where
  all_digits : Text.IsDigits digits
  some_digit : digits ≠ []
  head : digits.head? ≠ some '0'
  length_le : digits.length ≤ 18
  value_pos : 0 < Text.digitsValue digits
  value_le : Text.digitsValue digits ≤ 10 ^ 17
  point_mem : -360 ≤ point ∧ point ≤ 400
  units_eq : unitsOf (Text.digitsValue digits) (point - digits.length) = units

/-- No finite number has more digits before the point than this. -/
theorem places_lt {units places : Nat} (h : units < limit)
    (low : 10 ^ places * Binary64.one ≤ units * widening) : places < 652 := by
  by_contra large
  have first := sizes.limit_widened_le
  have others : 10 ^ 652 ≤ 10 ^ places := by
    rw [Nat.pow_le_pow_iff_right (by decide)]
    exact Nat.le_of_not_lt large
  have power := Nat.mul_le_mul_right Binary64.one others
  have scaled := Nat.mul_lt_mul_of_pos_right h some_widening
  omega

theorem significant_shortest (tie : Tie) {units : Nat} (positive : 0 < units) (h : IsDouble units) :
    Spells (shortest tie units).significant.1 (shortest tie units).significant.2 units := by
  obtain ⟨k, hk, places, low, exponent, least, most, -⟩ := shortest_spec tie positive
  have hplaces := places_lt h.bounded low
  have rounds := unitsOf_shortest tie positive h
  generalize shortest tie units = d at *
  have power : 10 ^ (k + 1) ≤ 10 ^ 17 := Nat.pow_le_pow_right (by decide) (by omega)
  have some_value : 0 < d.digits := Nat.lt_of_lt_of_le (Nat.pow_pos (by decide)) least
  obtain ⟨zeros, digits, some_digit, head, value, length, point⟩ := significant_spec some_value
  have short : (Nat.toDigits 10 d.digits).length ≤ 18 :=
    Text.length_toDigits_le (by decide) (by omega)
  have some_length : 0 < d.significant.1.length := List.length_pos_iff.2 some_digit
  have value_pos : 0 < Text.digitsValue d.significant.1 := by
    apply Nat.pos_of_mul_pos_right (b := 10 ^ zeros)
    omega
  refine ⟨digits, some_digit, head, by omega, value_pos, ?_, ⟨by omega, by omega⟩, ?_⟩
  · have grows := Nat.le_mul_of_pos_right (Text.digitsValue d.significant.1)
      (Nat.pow_pos (n := zeros) (show 0 < 10 by decide))
    omega
  · rw [← value, unitsOf_mul_pow] at rounds
    have same : d.significant.2 - d.significant.1.length = d.exponent + zeros := by omega
    rw [same]
    exact rounds

end Decimal

end EntitySql
