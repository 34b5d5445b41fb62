/-
  Integers read from numbers.

  An integer or a finite float is to be read as its number without the fraction, if this integer is one of
  64 bits and lies in the range of the type that is read; every other value but a text is refused
  (`Value.truncated?`). The comparison with the largest integer is made among floats, where this one is
  `2 ^ 63`: so the float `2 ^ 63` is not refused but read as the largest integer, by every type that has
  it and by the count of a result. It is the only exception (`integers_read_truncated_iff`): below
  `-2 ^ 63` the next number is more than one away.
-/
import EntitySql.Proofs.Binary.Spacing
import EntitySql.Proofs.Decimal.Shortest
import EntitySql.Proofs.Value.Integers
import EntitySql.Result.Basic
import Mathlib.Data.Rat.Floor

namespace EntitySql

open Binary

/-! ## Truncation -/

/-- The number without its fraction. -/
def truncated (q : ℚ) : Int := if 0 ≤ q then ⌊q⌋ else ⌈q⌉

theorem truncated_intCast (i : Int) : truncated i = i := by
  unfold truncated
  rw [Int.floor_intCast, Int.ceil_intCast, ite_self]

theorem truncated_brink : truncated (2 ^ 63) = 2 ^ 63 := by
  rw [show (2 ^ 63 : ℚ) = (2 ^ 63 : Int) by norm_num, truncated_intCast]

theorem truncated_div {d : Nat} (hd : 0 < d) (u : Int) : truncated (u / d) = u.tdiv d := by
  have positive : (0 : ℚ) < d := Nat.cast_pos.2 hd
  unfold truncated
  split
  · next natural =>
    have sign : 0 ≤ u := by
      rw [le_div_iff₀ positive, zero_mul] at natural
      exact_mod_cast natural
    rw [Rat.floor_intCast_div_natCast, Int.tdiv_eq_ediv_of_nonneg sign]
  · next negative =>
    have sign : 0 ≤ -u := by
      rw [le_div_iff₀ positive, zero_mul] at negative
      have below : u < 0 := by exact_mod_cast not_le.1 negative
      omega
    have opposite : (u / d : ℚ) = -((-u : Int) / d) := by
      rw [Int.cast_neg, neg_div, neg_neg]
    rw [opposite, Int.ceil_neg, Rat.floor_intCast_div_natCast, ← Int.tdiv_eq_ediv_of_nonneg sign,
      Int.neg_tdiv, Int.neg_neg]

/-- The numbers that are truncated to an integer of so many bits lie strictly between the two integers
next to these. -/
theorem truncated_mem_iff {bound : Int} (positive : 0 < bound) (q : ℚ) :
    (-bound ≤ truncated q ∧ truncated q ≤ bound - 1) ↔ -(bound + 1 : ℚ) < q ∧ q < bound := by
  have positive' : (0 : ℚ) < bound := Int.cast_pos.2 positive
  unfold truncated
  split
  · next natural =>
    have least : 0 ≤ ⌊q⌋ := Int.floor_nonneg.2 natural
    rw [Int.le_sub_one_iff, Int.floor_lt]
    constructor
    · rintro ⟨-, below⟩
      exact ⟨by linarith, below⟩
    · rintro ⟨-, below⟩
      exact ⟨by omega, below⟩
  · next negative =>
    have most : ⌈q⌉ ≤ 0 := Int.ceil_le.2 (by exact_mod_cast le_of_not_ge negative)
    have above : -bound ≤ ⌈q⌉ ↔ -(bound + 1 : ℚ) < q := by
      rw [← Int.sub_one_lt_iff, Int.lt_ceil]
      push_cast
      rw [neg_add']
    rw [above]
    constructor
    · rintro ⟨above, -⟩
      exact ⟨above, by linarith⟩
    · rintro ⟨above, -⟩
      exact ⟨above, by omega⟩

/-! ## Exact numbers -/

namespace Binary64

/-- The number that a finite float is. -/
def toRat? (x : Binary64) : Option ℚ := x.units?.map fun u : Int => (u : ℚ) / one

variable {x : Binary64} {q : ℚ}

theorem toRat?_eq_some (h : x.toRat? = some q) :
    ∃ u : Int, x.units? = some u ∧ q = u / one := by
  obtain ⟨u, units, rfl⟩ := Option.map_eq_some_iff.1 h
  exact ⟨u, units, rfl⟩

/-- Below `-2 ^ 63` the next number is more than one away. -/
theorem toRat_le_of_lt (h : x.toRat? = some q) (low : q < -2 ^ 63) : q ≤ -(2 ^ 63 + 1) := by
  obtain ⟨u, units, rfl⟩ := toRat?_eq_some h
  have positive : (0 : ℚ) < one := Nat.cast_pos.2 Decimal.some_one
  rw [div_lt_iff₀ positive] at low
  rw [div_le_iff₀ positive]
  have double := isDouble_natAbs units
  obtain ⟨s, power, -⟩ := exists_one_eq
  -- The casts below would evaluate the count of units of one.
  generalize one = some_one at *
  have low' : u < -(2 ^ 63 * some_one : Nat) := by exact_mod_cast low
  have word : 2 ^ 63 * some_one = 2 ^ (52 + (63 + s)) := by
    rw [power, ← Nat.pow_add]
    congr 1
    omega
  have whole : 2 ^ (63 + s) ∣ 2 ^ 63 * some_one := by
    rw [word]
    exact Nat.pow_dvd_pow 2 (by omega)
  have next : 2 ^ 63 * some_one + 2 ^ (63 + s) ≤ u.natAbs := double.add_le word.ge whole (by omega)
  have step : some_one ≤ 2 ^ (63 + s) := by
    rw [power]
    exact Nat.pow_le_pow_right (by decide) (by omega)
  have far : u ≤ -((2 ^ 63 + 1) * some_one : Nat) := by
    rw [Nat.add_mul, Nat.one_mul]
    omega
  exact_mod_cast far

/-- The test admits all numbers from `-2 ^ 63` to `2 ^ 63`, and the last is cut to the largest integer. -/
theorem toInt64?_eq (h : x.toRat? = some q) :
    x.toInt64? = if -2 ^ 63 ≤ q ∧ q ≤ 2 ^ 63 then
      some (Int64.ofInt (min (truncated q) (2 ^ 63 - 1))) else none := by
  obtain ⟨u, units, rfl⟩ := toRat?_eq_some h
  have positive : (0 : ℚ) < one := Nat.cast_pos.2 Decimal.some_one
  have largest : Int64.maxValue.toInt = 2 ^ 63 - 1 := by decide
  have bounds : (-((2 ^ 63 - 1 + 1) * one : Int) ≤ u ∧ u ≤ (2 ^ 63 - 1 + 1) * one) ↔
      -2 ^ 63 ≤ (u / one : ℚ) ∧ (u / one : ℚ) ≤ 2 ^ 63 := by
    rw [le_div_iff₀ positive, div_le_iff₀ positive]
    generalize one = some_one
    rw [Int.sub_add_cancel, ← Int.neg_mul]
    exact_mod_cast Iff.rfl
  rw [toInt64?, units, largest, truncated_div Decimal.some_one]
  exact if_congr bounds rfl rfl

theorem toInt_ofInt_of_mem {i : Int} (h : -2 ^ 63 ≤ i ∧ i ≤ 2 ^ 63 - 1) :
    (Int64.ofInt i).toInt = i :=
  Int64.toInt_ofInt_of_le h.1 (Int.lt_of_le_sub_one h.2)

theorem map_toInt64? (h : x.toRat? = some q) (inside : q ≠ 2 ^ 63) :
    x.toInt64?.map Int64.toInt = within (-2 ^ 63) (2 ^ 63 - 1) (truncated q) := by
  have mem : (-2 ^ 63 ≤ truncated q ∧ truncated q ≤ 2 ^ 63 - 1) ↔ -(2 ^ 63 + 1) < q ∧ q < 2 ^ 63 := by
    have bits := truncated_mem_iff (show 0 < (2 ^ 63 : Int) by decide) q
    exact_mod_cast bits
  rw [toInt64?_eq h]
  by_cases reached : -2 ^ 63 ≤ q ∧ q ≤ 2 ^ 63
  · have bounds := mem.2 ⟨by linarith, lt_of_le_of_ne reached.2 inside⟩
    rw [if_pos reached, min_eq_left bounds.2, Option.map_some, toInt_ofInt_of_mem bounds,
      within_eq_some bounds]
  · have refused : ¬(-2 ^ 63 ≤ truncated q ∧ truncated q ≤ 2 ^ 63 - 1) := by
      -- Between `-2 ^ 63 - 1` and `-2 ^ 63` numbers would be truncated to the least integer.
      intro bounds
      obtain ⟨low, high⟩ := mem.1 bounds
      refine reached ⟨not_lt.1 fun below => ?_, high.le⟩
      have far := toRat_le_of_lt h below
      linarith
    rw [if_neg reached, Option.map_none, within, if_neg refused]

/-- The bound itself lies within the comparison. -/
theorem map_toInt64?_brink (h : x.toRat? = some (2 ^ 63)) :
    x.toInt64?.map Int64.toInt = some (2 ^ 63 - 1) := by
  rw [toInt64?_eq h, if_pos ⟨by norm_num, le_refl _⟩, truncated_brink]
  rfl

theorem toInt64?_of_toRat?_eq_none (h : x.toRat? = none) : x.toInt64? = none := by
  rw [toInt64?, Option.map_eq_none_iff.1 h]

end Binary64

namespace Value

/-- The number that an integer or a finite float is; no other value is a number. -/
def toRat? : Value → Option ℚ
  | .integer i => some i.toInt
  | .float x => x.toRat?
  | _ => none

variable {v : Value} {q : ℚ}

theorem map_asInt64? (h : v.toRat? = some q) (inside : q ≠ 2 ^ 63) :
    v.asInt64?.map Int64.toInt = within (-2 ^ 63) (2 ^ 63 - 1) (truncated q) := by
  cases v
  case integer i =>
    cases h
    rw [truncated_intCast, within_toInt]
    rfl
  case float x => exact Binary64.map_toInt64? h inside
  all_goals cases h

theorem map_asInt64?_brink (h : v.toRat? = some (2 ^ 63)) :
    v.asInt64?.map Int64.toInt = some (2 ^ 63 - 1) := by
  cases v
  case integer i =>
    have less := Int64.toInt_lt i
    have equal : i.toInt = 2 ^ 63 := by exact_mod_cast Option.some.inj h
    omega
  case float x => exact Binary64.map_toInt64?_brink h
  all_goals cases h

theorem asInt64?_of_toRat?_eq_none (h : v.toRat? = none) (no_text : ∀ s, v ≠ .text s) :
    v.asInt64? = none := by
  cases v
  case integer => cases h
  case float x => exact Binary64.toInt64?_of_toRat?_eq_none h
  case text s => exact absurd rfl (no_text s)
  all_goals rfl

/-! ## Reads -/

/-- The integer that a read between two bounds should give: an integer as it is, and of a finite float the
truncation, if this has 64 bits. -/
def truncated? (low high : Int) : Value → Option Int
  | .integer i => within low high i.toInt
  | .float x => x.toRat?.bind fun q =>
    (within (-2 ^ 63) (2 ^ 63 - 1) (truncated q)).bind (within low high)
  | _ => none

variable {low high : Int}

theorem truncated?_of_toRat? (h : v.toRat? = some q) :
    v.truncated? low high =
      (within (-2 ^ 63) (2 ^ 63 - 1) (truncated q)).bind (within low high) := by
  cases v
  case integer i =>
    cases h
    rw [truncated_intCast, within_toInt]
    rfl
  case float x => exact congrArg (Option.bind · _) h
  all_goals cases h

theorem truncated?_of_toRat?_eq_none (h : v.toRat? = none) : v.truncated? low high = none := by
  cases v
  case integer => cases h
  case float x => exact congrArg (Option.bind · _) h
  all_goals rfl

/-- The truncation of `2 ^ 63` does not have 64 bits. -/
theorem truncated?_brink (h : v.toRat? = some (2 ^ 63)) : v.truncated? low high = none := by
  rw [truncated?_of_toRat? h, truncated_brink]
  rfl

theorem bind_map_asInt64? (no_text : ∀ s, v ≠ .text s) (inside : v.toRat? ≠ some (2 ^ 63)) :
    (v.asInt64?.map Int64.toInt).bind (within low high) = v.truncated? low high := by
  cases number : v.toRat? with
  | none =>
    rw [asInt64?_of_toRat?_eq_none number no_text, truncated?_of_toRat?_eq_none number]
    rfl
  | some q =>
    have off : q ≠ 2 ^ 63 := fun brink => inside (by rw [number, brink])
    rw [map_asInt64? number off, truncated?_of_toRat? number]

end Value

namespace CellType

variable {t : CellType} {low high : Int} {v : Value}

theorem map_number_ofValue?_brink (range : t.range? = some (low, high)) (h : v.toRat? = some (2 ^ 63)) :
    (t.ofValue? v).map t.number = within low high (2 ^ 63 - 1) := by
  have no_text : ∀ s, v ≠ .text s := by
    rintro s rfl
    cases h
  rw [map_number_ofValue? range no_text, Value.map_asInt64?_brink h, Option.bind_some]

theorem low_le_zero (range : t.range? = some (low, high)) : low ≤ 0 := by
  cases t <;> cases range <;> decide

/-- At `2 ^ 63` a read is wrong if it admits the largest integer. -/
theorem map_number_ofValue?_eq_iff (range : t.range? = some (low, high)) (no_text : ∀ s, v ≠ .text s) :
    (t.ofValue? v).map t.number = v.truncated? low high ↔
      (v.toRat? = some (2 ^ 63) → high < 2 ^ 63 - 1) := by
  have least := low_le_zero range
  by_cases brink : v.toRat? = some (2 ^ 63)
  · rw [map_number_ofValue?_brink range brink, Value.truncated?_brink brink, within, ite_eq_right_iff]
    simp only [reduceCtorEq, imp_false, brink, forall_const]
    omega
  · rw [map_number_ofValue? range no_text]
    exact ⟨fun _ number => absurd number brink, fun _ => Value.bind_map_asInt64? no_text brink⟩

end CellType

/-! ## Counts -/

namespace ResultSet

variable {r : ResultSet} {cell : Value} {q : ℚ}

theorem count_eq_ok_iff (h : r.scalar? = some cell) (n : UInt64) :
    r.count = .ok n ↔ cell.asInt64?.map Int64.toInt = some (n.toNat : Int) := by
  unfold count
  rw [h]
  simp only
  cases cell.asInt64? with
  | none => simp only [Option.map_none, reduceCtorEq]
  | some i =>
    simp only [Option.map_some, Option.some.injEq]
    by_cases natural : 0 ≤ i.toInt
    · have word := CellType.toNat_toUInt64 natural
      rw [if_pos natural]
      constructor
      · intro counted
        cases counted
        exact word.symm
      · intro number
        exact congrArg Except.ok (UInt64.toNat_inj.1 (Int.ofNat_inj.1 (word.trans number)))
    · rw [if_neg natural]
      constructor
      · nofun
      · intro number
        omega

theorem count_brink (h : r.scalar? = some cell) (number : cell.toRat? = some (2 ^ 63)) :
    r.count = .ok (.ofNat (2 ^ 63 - 1)) := by
  rw [count_eq_ok_iff h, Value.map_asInt64?_brink number]
  exact congrArg some (by decide)

/-- A count that is answered is the truncation of the cell, unless this is `2 ^ 63`. -/
theorem count_eq_truncated_iff (h : r.scalar? = some cell) (no_text : ∀ s, cell ≠ .text s) :
    (∀ n : UInt64, r.count = .ok n → cell.toRat?.map truncated = some (n.toNat : Int)) ↔
      cell.toRat? ≠ some (2 ^ 63) := by
  constructor
  · intro counts brink
    have counted := counts (.ofNat (2 ^ 63 - 1)) (count_brink h brink)
    rw [brink, Option.map_some, truncated_brink] at counted
    exact absurd counted (by decide)
  · intro inside n counted
    rw [count_eq_ok_iff h] at counted
    cases number : cell.toRat? with
    | none =>
      rw [Value.asInt64?_of_toRat?_eq_none number no_text] at counted
      cases counted
    | some q =>
      have off : q ≠ 2 ^ 63 := fun brink => inside (by rw [number, brink])
      rw [Value.map_asInt64? number off] at counted
      rw [Option.map_some, eq_of_within_eq_some counted]

end ResultSet

/-! ## Main result -/

/-- An integer is read as it is and a finite float as its truncation, if this is an integer of 64 bits and
one of the type that is read, and every other value but a text is refused; a count is the truncation of
its cell. This holds of every value but the float `2 ^ 63`, which is read as the largest integer wherever
the type admits it. -/
theorem integers_read_truncated_iff {t : CellType} {low high : Int}
    (range : t.range? = some (low, high)) {v : Value} (no_text : ∀ s, v ≠ .text s) {r : ResultSet}
    (scalar : r.scalar? = some v) :
    ((t.ofValue? v).map t.number = v.truncated? low high ↔
      (v.toRat? = some (2 ^ 63) → high < 2 ^ 63 - 1)) ∧
    (v.asInt64?.map Int64.toInt = v.truncated? (-2 ^ 63) (2 ^ 63 - 1) ↔ v.toRat? ≠ some (2 ^ 63)) ∧
    ((∀ n : UInt64, r.count = .ok n → v.toRat?.map truncated = some (n.toNat : Int)) ↔
      v.toRat? ≠ some (2 ^ 63)) ∧
    (v.toRat? = some (2 ^ 63) →
      (t.ofValue? v).map t.number = within low high (2 ^ 63 - 1) ∧
      v.asInt64?.map Int64.toInt = some (2 ^ 63 - 1) ∧ r.count = .ok (.ofNat (2 ^ 63 - 1))) := by
  have word : v.asInt64?.map Int64.toInt = v.truncated? (-2 ^ 63) (2 ^ 63 - 1) ↔
      v.toRat? ≠ some (2 ^ 63) :=
    (CellType.map_number_ofValue?_eq_iff (t := .int64) rfl no_text).trans
      ⟨fun less brink => absurd (less brink) (by decide), fun inside brink => absurd brink inside⟩
  exact ⟨CellType.map_number_ofValue?_eq_iff range no_text, word,
    ResultSet.count_eq_truncated_iff scalar no_text, fun brink =>
      ⟨CellType.map_number_ofValue?_brink range brink, Value.map_asInt64?_brink brink,
        ResultSet.count_brink scalar brink⟩⟩

/-- The float `-32768.5` in 16 bits, and as the answer to a count. -/
theorem integers_read_truncated_half :
    let x : Value := .float ⟨0xc0e0001000000000⟩
    let r : ResultSet := ⟨["COUNT(*)"], [[x]]⟩
    (CellType.range? .int16 = some (-2 ^ 15, 2 ^ 15 - 1) ∧ (∀ s, x ≠ .text s) ∧ r.scalar? = some x) ∧
      x.toRat? = some (-65537 / 2) ∧ (CellType.ofValue? .int16 x).map Int16.toInt = some (-32768) ∧
      ∀ n, r.count ≠ .ok n := by
  intro x r
  have number : x.toRat? = some (-65537 / 2) := by decide +kernel
  have inside : x.toRat? ≠ some (2 ^ 63) := by decide +kernel
  have truncation : x.truncated? (-2 ^ 15) (2 ^ 15 - 1) = some (-32768) := by decide +kernel
  have whole : x.toRat?.map truncated = some (-32768) := by decide +kernel
  obtain ⟨reads, -, counts, -⟩ :=
    integers_read_truncated_iff (t := .int16) rfl (v := x) nofun (r := r) rfl
  have read := reads.2 fun brink => absurd brink inside
  refine ⟨⟨rfl, nofun, rfl⟩, number, read.trans truncation, ?_⟩
  intro n counted
  have natural := counts.2 inside n counted
  rw [whole, Option.some.injEq] at natural
  omega

/-- The float `2 ^ 63` is read as `2 ^ 63 - 1`, with sign and without, and counted as this. -/
theorem two_pow_63_read_as_largest :
    let x : Binary64 := ⟨0x43e0000000000000⟩
    let r : ResultSet := ⟨["COUNT(*)"], [[.float x]]⟩
    x.toRat? = some (2 ^ 63) ∧ truncated (2 ^ 63) = 2 ^ 63 ∧
      CellType.ofValue? .int64 (.float x) = some 9223372036854775807 ∧
      CellType.ofValue? .uint64 (.float x) = some 9223372036854775807 ∧
      r.count = .ok 9223372036854775807 := by
  decide +kernel

end EntitySql
