/-
  Rounding to the nearest number of a binary format.

  A quotient is rounded to a number exactly as near as half a step, with the even neighbour for a half
  (`Format.roundUnits_eq`). Rounding depends on the quotient alone, keeps the order, and gives a number
  of the format again (`isDouble_roundUnits`).
-/
import EntitySql.Proofs.Binary.Words
import Mathlib.Tactic.Linarith

namespace EntitySql.Binary

/-! ## Whole numbers -/

section Quotient

variable {n k d m : Nat}

/-- The whole number within half a divisor, an even one at exactly a half, is the rounded quotient. -/
theorem roundQuotient_eq (hd : 0 < d) (low : 2 * (m * d) ≤ 2 * n + d) (high : 2 * n ≤ 2 * (m * d) + d)
    (tie : 2 * (m * d) = 2 * n + d ∨ 2 * n = 2 * (m * d) + d → m % 2 = 0) :
    roundQuotient n d = m := by
  have split : d * (n / d) + n % d = n := Nat.div_add_mod n d
  have rest : n % d < d := Nat.mod_lt n hd
  have near : m = n / d ∨ m = n / d + 1 := by
    have least : n / d ≤ m := by
      by_contra less
      have gap : (m + 1) * d ≤ n / d * d := Nat.mul_le_mul_right d (by omega)
      rw [Nat.add_mul, Nat.one_mul, Nat.mul_comm (n / d)] at gap
      omega
    have most : m ≤ n / d + 1 := by
      by_contra more
      have gap : (n / d + 2) * d ≤ m * d := Nat.mul_le_mul_right d (by omega)
      rw [Nat.add_mul, Nat.mul_comm (n / d)] at gap
      omega
    omega
  unfold roundQuotient
  rcases near with rfl | rfl
  · rw [Nat.mul_comm (n / d)] at low high tie
    rw [if_neg]
    simp only [Bool.or_eq_true, Bool.and_eq_true, decide_eq_true_eq]
    omega
  · rw [Nat.add_mul, Nat.mul_comm (n / d), Nat.one_mul] at low high tie
    rw [if_pos]
    simp only [Bool.or_eq_true, Bool.and_eq_true, decide_eq_true_eq]
    omega

/-- The rounded quotient is within half a divisor. -/
theorem roundQuotient_near (hd : 0 < d) :
    2 * n ≤ 2 * (roundQuotient n d * d) + d ∧ 2 * (roundQuotient n d * d) ≤ 2 * n + d := by
  have split : d * (n / d) + n % d = n := Nat.div_add_mod n d
  have rest : n % d < d := Nat.mod_lt n hd
  unfold roundQuotient
  simp only [Bool.or_eq_true, Bool.and_eq_true, decide_eq_true_eq]
  split
  · rw [Nat.add_mul, Nat.one_mul, Nat.mul_comm (n / d)]
    omega
  · rw [Nat.mul_comm (n / d)]
    omega

theorem le_roundQuotient : n / d ≤ roundQuotient n d := by
  unfold roundQuotient
  dsimp only
  split <;> omega

theorem roundQuotient_le : roundQuotient n d ≤ n / d + 1 := by
  unfold roundQuotient
  dsimp only
  split <;> omega

theorem roundQuotient_mono (h : n ≤ k) : roundQuotient n d ≤ roundQuotient k d := by
  have quotients : n / d ≤ k / d := Nat.div_le_div_right h
  by_cases same : n / d = k / d
  · have rest : n % d ≤ k % d := by
      have hn := Nat.div_add_mod n d
      have hk := Nat.div_add_mod k d
      rw [same] at hn
      omega
    unfold roundQuotient
    rw [same]
    simp only [Bool.or_eq_true, Bool.and_eq_true, decide_eq_true_eq]
    split <;> split <;> omega
  · have up := roundQuotient_le (n := n) (d := d)
    have down := le_roundQuotient (n := k) (d := d)
    omega

theorem roundQuotient_mul_left {c : Nat} (hc : 0 < c) :
    roundQuotient (c * n) (c * d) = roundQuotient n d := by
  have order : 2 * (c * (n % d)) > c * d ↔ 2 * (n % d) > d := by
    rw [Nat.mul_left_comm]
    exact Nat.mul_lt_mul_left hc
  have equal : 2 * (c * (n % d)) = c * d ↔ 2 * (n % d) = d := by
    rw [Nat.mul_left_comm]
    exact Nat.mul_right_inj (Nat.ne_of_gt hc)
  unfold roundQuotient
  simp only [Nat.mul_div_mul_left n d hc, Nat.mul_mod_mul_left, order, equal]

end Quotient

namespace Format

variable (f : Format) {num den : Nat}

/-! ## Numbers of a format -/

/-- The number within half a step of a quotient is the rounded quotient. -/
theorem roundUnits_eq {s m : Nat} (hden : 0 < den) (step : f.step (num / den) = s)
    (low : 2 * (m * 2 ^ s * den) ≤ 2 * num + 2 ^ s * den)
    (high : 2 * num ≤ 2 * (m * 2 ^ s * den) + 2 ^ s * den)
    (tie : 2 * (m * 2 ^ s * den) = 2 * num + 2 ^ s * den ∨
      2 * num = 2 * (m * 2 ^ s * den) + 2 ^ s * den → m % 2 = 0) :
    f.roundUnits num den = m * 2 ^ s := by
  have product : m * (den * 2 ^ s) = m * 2 ^ s * den := by ring
  have rounded : roundQuotient num (den * 2 ^ s) = m := by
    apply roundQuotient_eq (Nat.mul_pos hden (Nat.two_pow_pos s))
    all_goals rwa [product, Nat.mul_comm den]
  unfold roundUnits
  rw [step]
  exact congrArg (· * 2 ^ s) rounded

theorem roundUnits_zero (den : Nat) : f.roundUnits 0 den = 0 := by
  simp [roundUnits, roundQuotient]

theorem roundUnits_mul_left {c : Nat} (hc : 0 < c) :
    f.roundUnits (c * num) (c * den) = f.roundUnits num den := by
  unfold roundUnits
  simp only [Nat.mul_div_mul_left num den hc, Nat.mul_assoc, roundQuotient_mul_left hc]

/-- Equal quotients are rounded to the same number. -/
theorem roundUnits_congr {num' den' : Nat} (hden : 0 < den) (hden' : 0 < den')
    (h : num * den' = num' * den) : f.roundUnits num den = f.roundUnits num' den' := by
  calc f.roundUnits num den = f.roundUnits (den' * num) (den' * den) :=
        (f.roundUnits_mul_left hden').symm
    _ = f.roundUnits (den * num') (den * den') := by
        rw [Nat.mul_comm den' num, h, Nat.mul_comm num' den, Nat.mul_comm den' den]
    _ = f.roundUnits num' den' := f.roundUnits_mul_left hden

/-- Before it is rounded, the quotient in steps has at most one bit more than a fraction. -/
theorem quotient_lt (num den : Nat) :
    num / (den * 2 ^ f.step (num / den)) < 2 ^ (f.fractionBits + 1) := by
  rw [← Nat.div_div_eq_div_mul, Nat.div_lt_iff_lt_mul (Nat.two_pow_pos _), ← Nat.pow_add,
    Nat.add_right_comm]
  exact f.lt_two_pow_step _

theorem roundUnits_le (num den : Nat) :
    f.roundUnits num den ≤ 2 ^ (f.fractionBits + f.step (num / den) + 1) := by
  have bound := f.quotient_lt num den
  have rounded := roundQuotient_le (n := num) (d := den * 2 ^ f.step (num / den))
  rw [Nat.add_right_comm, Nat.pow_add]
  exact Nat.mul_le_mul_right _ (Nat.le_trans rounded bound)

theorem le_roundUnits (h : f.step (num / den) ≠ 0) :
    2 ^ (f.fractionBits + f.step (num / den)) ≤ f.roundUnits num den := by
  have bound : 2 ^ f.fractionBits ≤ num / (den * 2 ^ f.step (num / den)) := by
    rw [← Nat.div_div_eq_div_mul, Nat.le_div_iff_mul_le (Nat.two_pow_pos _), ← Nat.pow_add]
    exact f.two_pow_step_le h
  rw [Nat.pow_add]
  exact Nat.mul_le_mul_right _ (Nat.le_trans bound le_roundQuotient)

/-- A rounded number is within half a unit and the share of the quotient that a fraction's last bit has. -/
theorem roundUnits_near (num : Nat) (hden : 0 < den) :
    2 ^ (f.fractionBits + 1) * num ≤
      2 ^ (f.fractionBits + 1) * (f.roundUnits num den * den) + num + 2 ^ f.fractionBits * den ∧
    2 ^ (f.fractionBits + 1) * (f.roundUnits num den * den) ≤
      2 ^ (f.fractionBits + 1) * num + num + 2 ^ f.fractionBits * den := by
  have step : 2 ^ f.fractionBits * (den * 2 ^ f.step (num / den)) ≤ num + 2 ^ f.fractionBits * den := by
    by_cases zero : f.step (num / den) = 0
    · rw [zero, Nat.pow_zero, Nat.mul_one]
      exact Nat.le_add_left _ _
    · have low := f.two_pow_step_le zero
      rw [Nat.le_div_iff_mul_le hden, Nat.pow_add] at low
      rw [Nat.mul_comm den, ← Nat.mul_assoc]
      exact Nat.le_trans low (Nat.le_add_right _ _)
  have product : f.roundUnits num den * den =
      roundQuotient num (den * 2 ^ f.step (num / den)) * (den * 2 ^ f.step (num / den)) := by
    show roundQuotient num (den * 2 ^ f.step (num / den)) * 2 ^ f.step (num / den) * den = _
    ring
  obtain ⟨low, high⟩ := roundQuotient_near (n := num)
    (Nat.mul_pos hden (Nat.two_pow_pos (f.step (num / den))))
  rw [← product] at low high
  have low' := Nat.mul_le_mul_left (2 ^ f.fractionBits) low
  have high' := Nat.mul_le_mul_left (2 ^ f.fractionBits) high
  rw [Nat.pow_succ]
  constructor <;> linarith

/-- A larger quotient is not rounded to a smaller number. -/
theorem roundUnits_mono {larger : Nat} (h : num ≤ larger) :
    f.roundUnits num den ≤ f.roundUnits larger den := by
  have steps := f.step_mono (Nat.div_le_div_right (c := den) h)
  by_cases same : f.step (num / den) = f.step (larger / den)
  · unfold roundUnits
    rw [same]
    exact Nat.mul_le_mul_right _ (roundQuotient_mono h)
  · have powers : 2 ^ (f.fractionBits + f.step (num / den) + 1) ≤
        2 ^ (f.fractionBits + f.step (larger / den)) :=
      Nat.pow_le_pow_right (by decide) (by omega)
    calc f.roundUnits num den ≤ 2 ^ (f.fractionBits + f.step (num / den) + 1) :=
          f.roundUnits_le num den
      _ ≤ 2 ^ (f.fractionBits + f.step (larger / den)) := powers
      _ ≤ f.roundUnits larger den := f.le_roundUnits (by omega)

/-- A rounded number has no bits below its own step. -/
theorem step_dvd_roundUnits (num den : Nat) :
    2 ^ f.step (f.roundUnits num den) ∣ f.roundUnits num den := by
  have bound := f.roundUnits_le num den
  rcases Nat.lt_or_eq_of_le bound with below | top
  · have step : f.step (f.roundUnits num den) ≤ f.step (num / den) := by
      by_contra more
      have low := f.two_pow_step_le (u := f.roundUnits num den) (by omega)
      have powers : 2 ^ (f.fractionBits + f.step (num / den) + 1) ≤
          2 ^ (f.fractionBits + f.step (f.roundUnits num den)) :=
        Nat.pow_le_pow_right (by decide) (by omega)
      omega
    exact Nat.dvd_trans (Nat.pow_dvd_pow 2 step) (Nat.dvd_mul_left _ _)
  · have step : f.step (f.roundUnits num den) = f.step (num / den) + 1 := by
      apply f.step_eq
      · right
        rw [top, ← Nat.add_assoc]
      · rw [top]
        exact Nat.pow_lt_pow_right (by decide) (by omega)
    rw [step, top]
    exact Nat.pow_dvd_pow 2 (by omega)

end Format

theorem isDouble_roundUnits {num den : Nat} (h : double.roundUnits num den < limit) :
    IsDouble (double.roundUnits num den) :=
  ⟨double.step_dvd_roundUnits num den, h⟩

/-- A number of the format is kept when it is rounded. -/
theorem roundUnits_of_isDouble {units den : Nat} (h : IsDouble units) (hden : 0 < den) :
    double.roundUnits (units * den) den = units := by
  have exact_units : units / 2 ^ double.step units * 2 ^ double.step units = units :=
    Nat.div_mul_cancel h.step_dvd
  have positive : 0 < 2 ^ double.step units * den := Nat.mul_pos (Nat.two_pow_pos _) hden
  have rounded : double.roundUnits (units * den) den =
      units / 2 ^ double.step units * 2 ^ double.step units := by
    apply double.roundUnits_eq hden (by rw [Nat.mul_div_cancel _ hden])
    all_goals
      rw [exact_units]
      omega
  rwa [exact_units] at rounded

theorem roundUnits_one_of_isDouble {units : Nat} (h : IsDouble units) :
    double.roundUnits units 1 = units := by
  have kept := roundUnits_of_isDouble h Nat.zero_lt_one
  rwa [Nat.mul_one] at kept

/-- Rounding stays below the numbers of the format above a quotient. -/
theorem roundUnits_le_of_isDouble {units num den : Nat} (h : IsDouble units) (hden : 0 < den)
    (below : num ≤ units * den) : double.roundUnits num den ≤ units :=
  calc double.roundUnits num den ≤ double.roundUnits (units * den) den := double.roundUnits_mono below
    _ = units := roundUnits_of_isDouble h hden

end EntitySql.Binary
