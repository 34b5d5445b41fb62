/-
  Words of double-precision numbers: which counts of units are numbers of the format, and that a word
  and what it stands for determine each other (`Binary64.datum_ofDatum`, `Binary64.ofDatum_datum`).

  A count of units is a number of the format if it has at most one bit more than a fraction stores, that
  is if the step of the format at this size divides it, and if it is below the limit of `2 ^ 2098`.
-/
import EntitySql.Binary.Binary64
import Mathlib.Data.Nat.Log
import Mathlib.Tactic.Ring

namespace EntitySql

namespace Binary

/-! ## The step of a format -/

namespace Format

variable (f : Format) {u s : Nat}

theorem lt_two_pow_step (u : Nat) : u < 2 ^ (f.fractionBits + f.step u + 1) := by
  have log : u < 2 ^ (u.log2 + 1) := Nat.lt_log2_self
  refine Nat.lt_of_lt_of_le log (Nat.pow_le_pow_right (by decide) ?_)
  unfold step
  omega

theorem two_pow_step_le (h : f.step u ≠ 0) : 2 ^ (f.fractionBits + f.step u) ≤ u := by
  unfold step at h ⊢
  have positive : u ≠ 0 := by
    rintro rfl
    simp at h
  have log := Nat.log2_self_le positive
  rwa [show f.fractionBits + (u.log2 - f.fractionBits) = u.log2 by omega]

/-- The step is known by the two powers of two between which the count lies. -/
theorem step_eq (low : s = 0 ∨ 2 ^ (f.fractionBits + s) ≤ u) (high : u < 2 ^ (f.fractionBits + s + 1)) :
    f.step u = s := by
  unfold step
  by_cases zero : u = 0
  · rcases low with rfl | low
    · simp [zero]
    · have positive := Nat.two_pow_pos (f.fractionBits + s)
      omega
  · have most := (Nat.log2_lt zero).2 high
    rcases low with rfl | low
    · omega
    · have least := (Nat.le_log2 zero).2 low
      omega

theorem step_mono {t : Nat} (h : u ≤ t) : f.step u ≤ f.step t := by
  by_cases zero : f.step u = 0
  · omega
  · by_contra less
    have low := f.two_pow_step_le zero
    have high := f.lt_two_pow_step t
    have powers : 2 ^ (f.fractionBits + f.step t + 1) ≤ 2 ^ (f.fractionBits + f.step u) :=
      Nat.pow_le_pow_right (by decide) (by omega)
    omega

end Format

/-- The first count of units that is too large to be finite. -/
def limit : Nat := 2 ^ 2098

theorem two_pow_le_limit {n : Nat} (h : n ≤ 2098) : 2 ^ n ≤ limit := by
  rwa [limit, Nat.pow_le_pow_iff_right (by decide)]

theorem limit_le_two_pow {n : Nat} (h : 2098 ≤ n) : limit ≤ 2 ^ n := by
  rwa [limit, Nat.pow_le_pow_iff_right (by decide)]

/-- The count of units is a number of double precision. -/
structure IsDouble (units : Nat) : Prop where
  step_dvd : 2 ^ double.step units ∣ units
  bounded : units < limit

/-- A number of double precision is a whole number of at most 53 bits times its step, and uses all of
them if the step is not one. -/
theorem IsDouble.exists_leading {units : Nat} (h : IsDouble units) :
    ∃ q, units = q * 2 ^ double.step units ∧ q < 2 ^ 53 ∧ (double.step units = 0 ∨ 2 ^ 52 ≤ q) := by
  obtain ⟨q, hq⟩ := h.step_dvd
  have most := double.lt_two_pow_step units
  have least := double.two_pow_step_le (u := units)
  generalize double.step units = s at *
  rw [Nat.mul_comm] at hq
  refine ⟨q, hq, ?_, ?_⟩
  · have bound : q * 2 ^ s < 2 ^ 53 * 2 ^ s := by
      rw [← hq, ← Nat.pow_add]
      exact Nat.lt_of_lt_of_eq most (congrArg _ (by simp only [double]; omega))
    exact Nat.lt_of_mul_lt_mul_right bound
  · rcases Nat.eq_zero_or_pos s with zero | some_step
    · exact .inl zero
    · have bound : 2 ^ 52 * 2 ^ s ≤ q * 2 ^ s := by
        rw [← hq, ← Nat.pow_add]
        exact least (by omega)
      exact .inr (Nat.le_of_mul_le_mul_right bound (Nat.two_pow_pos s))

/-! ## Reading a word -/

/-- The word with a sign, an exponent and a fraction. -/
def wordOf (negative : Bool) (exponent fraction : Nat) : Nat :=
  (if negative then 2 ^ 63 else 0) + (exponent * 2 ^ 52 + fraction)

theorem exists_wordOf {word : Nat} (h : word < 2 ^ 64) :
    ∃ negative exponent fraction, word = wordOf negative exponent fraction ∧
      exponent < 2048 ∧ fraction < 2 ^ 52 := by
  refine ⟨decide (2 ^ 63 ≤ word), word / 2 ^ 52 % 2048, word % 2 ^ 52, ?_, by omega, by omega⟩
  unfold wordOf
  split <;> simp_all <;> omega

/-- What a word with these parts stands for. -/
theorem decode_wordOf {negative : Bool} {exponent fraction : Nat} (hexponent : exponent < 2048)
    (hfraction : fraction < 2 ^ 52) :
    double.decode (wordOf negative exponent fraction) =
      if exponent = 2047 then if fraction = 0 then .infinite negative else .nan
      else if exponent = 0 then .finite negative fraction
      else .finite negative ((2 ^ 52 + fraction) * 2 ^ (exponent - 1)) := by
  have sign : wordOf negative exponent fraction / 2 ^ 63 % 2 = if negative then 1 else 0 := by
    unfold wordOf
    split <;> omega
  have middle : wordOf negative exponent fraction / 2 ^ 52 % 2 ^ 11 = exponent := by
    unfold wordOf
    split <;> omega
  have low : wordOf negative exponent fraction % 2 ^ 52 = fraction := by
    unfold wordOf
    split <;> omega
  unfold Format.decode
  simp only [double, Nat.pow_eq, sign, middle, low]
  cases negative <;> rfl

/-! ## Writing a word -/

theorem encode_of_lt (negative : Bool) {units : Nat} (h : units < 2 ^ 52) :
    double.encode (.finite negative units) = wordOf negative 0 units := by
  have magnitude : double.encodeMagnitude (.finite negative units) = units := if_pos h
  show (if negative then 2 ^ 63 else 0) + double.encodeMagnitude (.finite negative units) = _
  rw [magnitude, wordOf, Nat.zero_mul, Nat.zero_add]

/-- The leading bits of a count that has at least all the bits of a fraction. -/
theorem leading_bits {units : Nat} (h : 2 ^ 52 ≤ units) :
    2 ^ 52 ≤ units / 2 ^ double.step units ∧ units / 2 ^ double.step units < 2 ^ 53 := by
  have high := double.lt_two_pow_step units
  constructor
  · rw [Nat.le_div_iff_mul_le (Nat.two_pow_pos _), ← Nat.pow_add]
    by_cases small : double.step units = 0
    · rwa [small]
    · exact double.two_pow_step_le small
  · rw [Nat.div_lt_iff_lt_mul (Nat.two_pow_pos _), ← Nat.pow_add]
    exact Nat.lt_of_lt_of_eq high (congrArg _ (by simp only [double]; omega))

theorem step_le {units : Nat} (h : units < limit) : double.step units ≤ 2045 := by
  by_contra large
  have low := double.two_pow_step_le (u := units) (by omega)
  have power : limit ≤ 2 ^ (double.fractionBits + double.step units) :=
    limit_le_two_pow (by simp only [double] at large ⊢; omega)
  omega

theorem encode_of_le (negative : Bool) {units : Nat} (h : 2 ^ 52 ≤ units) (bounded : units < limit) :
    double.encode (.finite negative units) =
      wordOf negative (double.step units + 1) (units / 2 ^ double.step units - 2 ^ 52) := by
  have leading := leading_bits h
  have step := step_le bounded
  have magnitude : double.encodeMagnitude (.finite negative units) =
      (double.step units + 1) * 2 ^ 52 + (units / 2 ^ double.step units - 2 ^ 52) := by
    show (if units < 2 ^ 52 then units else
      min ((double.step units + 1) * 2 ^ 52 + (units / 2 ^ double.step units - 2 ^ 52))
        (2047 * 2 ^ 52)) = _
    rw [if_neg (by omega), Nat.min_eq_left (by omega)]
  show (if negative then 2 ^ 63 else 0) + double.encodeMagnitude (.finite negative units) = _
  rw [magnitude, wordOf]

/-- Counts of units from the limit on are written as infinity. -/
theorem encode_of_limit_le (negative : Bool) {units : Nat} (h : limit ≤ units) :
    double.encode (.finite negative units) = wordOf negative 2047 0 := by
  have large : 2 ^ 52 ≤ units := Nat.le_trans (two_pow_le_limit (by decide)) h
  have step : 2046 ≤ double.step units := by
    by_contra less
    have high := double.lt_two_pow_step units
    have power : 2 ^ (double.fractionBits + double.step units + 1) ≤ limit :=
      two_pow_le_limit (by simp only [double] at less ⊢; omega)
    omega
  have magnitude : double.encodeMagnitude (.finite negative units) = 2047 * 2 ^ 52 + 0 := by
    show (if units < 2 ^ 52 then units else
      min ((double.step units + 1) * 2 ^ 52 + (units / 2 ^ double.step units - 2 ^ 52))
        (2047 * 2 ^ 52)) = _
    rw [if_neg (Nat.not_lt_of_le large), Nat.min_eq_right (by omega), Nat.add_zero]
  show (if negative then 2 ^ 63 else 0) + double.encodeMagnitude (.finite negative units) = _
  rw [magnitude, wordOf]

theorem decode_encode (negative : Bool) {units : Nat} (h : IsDouble units) :
    double.decode (double.encode (.finite negative units)) = .finite negative units := by
  by_cases small : units < 2 ^ 52
  · rw [encode_of_lt negative small, decode_wordOf (by decide) small, if_neg (by decide), if_pos rfl]
  · have leading := leading_bits (Nat.le_of_not_lt small)
    have step := step_le h.bounded
    rw [encode_of_le negative (Nat.le_of_not_lt small) h.bounded, decode_wordOf (by omega) (by omega),
      if_neg (by omega), if_neg (Nat.succ_ne_zero _), Nat.add_sub_cancel, Nat.add_sub_cancel' leading.1,
      Nat.div_mul_cancel h.step_dvd]

theorem encode_lt (negative : Bool) {units : Nat} (h : units < limit) :
    double.encode (.finite negative units) < 2 ^ 64 := by
  have word : ∀ {exponent fraction : Nat}, exponent < 2048 → fraction < 2 ^ 52 →
      wordOf negative exponent fraction < 2 ^ 64 := by
    intro exponent fraction hexponent hfraction
    unfold wordOf
    split <;> omega
  by_cases small : units < 2 ^ 52
  · rw [encode_of_lt negative small]
    exact word (by decide) small
  · have leading := leading_bits (Nat.le_of_not_lt small)
    have step := step_le h
    rw [encode_of_le negative (Nat.le_of_not_lt small) h]
    exact word (by omega) (by omega)

/-! ## Finite words -/

theorem isDouble_of_lt {units : Nat} (h : units < 2 ^ 53) : IsDouble units where
  step_dvd := by
    have zero : double.step units = 0 := double.step_eq (.inl rfl) h
    rw [zero]
    exact Nat.one_dvd units
  bounded := Nat.lt_of_lt_of_le h (two_pow_le_limit (by decide))

/-- A full fraction at any exponent of finite numbers makes a number of the format. -/
theorem isDouble_mul_pow (leading shift : Nat) (low : 2 ^ 52 ≤ leading) (high : leading < 2 ^ 53)
    (hshift : shift ≤ 2045) :
    double.step (leading * 2 ^ shift) = shift ∧ IsDouble (leading * 2 ^ shift) := by
  have below : leading * 2 ^ shift < 2 ^ (53 + shift) := by
    rw [Nat.pow_add]
    exact Nat.mul_lt_mul_of_pos_right high (Nat.two_pow_pos shift)
  have step : double.step (leading * 2 ^ shift) = shift := by
    apply double.step_eq
    · right
      rw [Nat.pow_add]
      exact Nat.mul_le_mul_right _ low
    · exact Nat.lt_of_lt_of_eq below (congrArg _ (by simp only [double]; omega))
  refine ⟨step, ⟨by rw [step]; exact Nat.dvd_mul_left _ _, ?_⟩⟩
  exact Nat.lt_of_lt_of_le below (two_pow_le_limit (by omega))

theorem encode_decode {word : Nat} (h : word < 2 ^ 64) {negative : Bool} {units : Nat}
    (finite : double.decode word = .finite negative units) :
    IsDouble units ∧ double.encode (.finite negative units) = word := by
  obtain ⟨sign, exponent, fraction, rfl, hexponent, hfraction⟩ := exists_wordOf h
  rw [decode_wordOf hexponent hfraction] at finite
  split at finite
  · split at finite <;> cases finite
  split at finite
  · next zero =>
    cases finite
    exact ⟨isDouble_of_lt (Nat.lt_trans hfraction (by decide)), zero ▸ encode_of_lt _ hfraction⟩
  · next top positive =>
    cases finite
    obtain ⟨step, double⟩ := isDouble_mul_pow (2 ^ 52 + fraction) (exponent - 1)
      (Nat.le_add_right _ _) (by omega) (by omega)
    have large : 2 ^ 52 ≤ (2 ^ 52 + fraction) * 2 ^ (exponent - 1) :=
      Nat.le_trans (Nat.le_add_right _ fraction) (Nat.le_mul_of_pos_right _ (Nat.two_pow_pos _))
    refine ⟨double, ?_⟩
    rw [encode_of_le _ large double.bounded, step, Nat.mul_div_cancel _ (Nat.two_pow_pos _),
      Nat.add_sub_cancel_left, Nat.sub_add_cancel (by omega)]

end Binary

namespace Binary64

open Binary

theorem datum_ofDatum (negative : Bool) {units : Nat} (h : IsDouble units) :
    (ofDatum (.finite negative units)).datum = .finite negative units := by
  have word := encode_lt negative h.bounded
  rw [datum, ofDatum, UInt64.toNat_ofNat_of_lt' word, decode_encode negative h]

theorem datum_ofDatum_of_limit_le (negative : Bool) {units : Nat} (h : limit ≤ units) :
    (ofDatum (.finite negative units)).datum = .infinite negative := by
  rw [datum, ofDatum, encode_of_limit_le negative h]
  cases negative <;> decide

/-- Only counts of units below the limit make finite numbers. -/
theorem lt_limit_of_isInfinite_eq_false {units : Nat}
    (h : (ofDatum (.finite false units)).isInfinite = false) : units < limit := by
  by_contra large
  rw [isInfinite, datum_ofDatum_of_limit_le false (Nat.le_of_not_lt large)] at h
  cases h

theorem ofDatum_datum {x : Binary64} {negative : Bool} {units : Nat}
    (h : x.datum = .finite negative units) :
    IsDouble units ∧ ofDatum (.finite negative units) = x := by
  obtain ⟨double, word⟩ := encode_decode x.word.toNat_lt h
  refine ⟨double, ?_⟩
  rw [ofDatum, word, UInt64.ofNat_toNat]

end Binary64

end EntitySql
