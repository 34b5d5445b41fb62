/-
  The integer types and the numbers that their elements are.

  An element is known by its number, which lies in the range of its type (`number_injective`,
  `number_mem`). A number that the integers of values reach travels as such an integer. Read from a value
  that is no text, an element is the integer that the value stands for, and there is one exactly if
  this integer lies in the range (`map_number_ofValue?`).
-/
import EntitySql.Value.CellType
import Mathlib.Data.Int.Basic
import Mathlib.Tactic.Ring

namespace EntitySql

/-- The number, if it lies between the two, both included. -/
def within (low high n : Int) : Option Int := if low ≤ n ∧ n ≤ high then some n else none

theorem within_eq_some {low high n : Int} (h : low ≤ n ∧ n ≤ high) : within low high n = some n :=
  if_pos h

theorem eq_of_within_eq_some {low high n m : Int} (h : within low high n = some m) : n = m :=
  Option.some.inj (Option.ite_none_right_eq_some.1 h).2

theorem within_toInt (i : Int64) : within (-2 ^ 63) (2 ^ 63 - 1) i.toInt = some i.toInt :=
  within_eq_some ⟨Int64.le_toInt i, Int.le_sub_one_of_lt (Int64.toInt_lt i)⟩

namespace CellType

/-- The least and the greatest number of an integer type; no other type has a range. -/
def range? : CellType → Option (Int × Int)
  | .int8 => some (-2 ^ 7, 2 ^ 7 - 1)
  | .int16 => some (-2 ^ 15, 2 ^ 15 - 1)
  | .int32 => some (-2 ^ 31, 2 ^ 31 - 1)
  | .int64 => some (-2 ^ 63, 2 ^ 63 - 1)
  | .uint8 => some (0, 2 ^ 8 - 1)
  | .uint16 => some (0, 2 ^ 16 - 1)
  | .uint32 => some (0, 2 ^ 32 - 1)
  | .uint64 | .size => some (0, 2 ^ 64 - 1)
  | _ => none

/-- The number that an element of an integer type is. -/
def number : (t : CellType) → t.Carrier → Int
  | .int8, i => i.toInt
  | .int16, i => i.toInt
  | .int32, i => i.toInt
  | .int64, i => i.toInt
  | .uint8, n => n.toNat
  | .uint16, n => n.toNat
  | .uint32, n => n.toNat
  | .uint64, n => n.toNat
  | .size, n => n.toNat
  | _, _ => 0

variable {t : CellType} {low high : Int}

theorem number_mem (h : t.range? = some (low, high)) (x : t.Carrier) :
    low ≤ t.number x ∧ t.number x ≤ high := by
  cases t <;> cases h
  case int8 => exact ⟨Int8.le_toInt x, Int.le_sub_one_of_lt (Int8.toInt_lt x)⟩
  case int16 => exact ⟨Int16.le_toInt x, Int.le_sub_one_of_lt (Int16.toInt_lt x)⟩
  case int32 => exact ⟨Int32.le_toInt x, Int.le_sub_one_of_lt (Int32.toInt_lt x)⟩
  case int64 => exact ⟨Int64.le_toInt x, Int.le_sub_one_of_lt (Int64.toInt_lt x)⟩
  all_goals
    have bound := x.toNat_lt
    simp only [number]
    omega

theorem number_injective (h : t.range? = some (low, high)) {x y : t.Carrier}
    (same : t.number x = t.number y) : x = y := by
  cases t <;> cases h
  case int8 => exact Int8.toInt_inj.1 same
  case int16 => exact Int16.toInt_inj.1 same
  case int32 => exact Int32.toInt_inj.1 same
  case int64 => exact Int64.toInt_inj.1 same
  case uint8 => exact UInt8.toNat_inj.1 (Int.ofNat_inj.1 same)
  case uint16 => exact UInt16.toNat_inj.1 (Int.ofNat_inj.1 same)
  case uint32 => exact UInt32.toNat_inj.1 (Int.ofNat_inj.1 same)
  all_goals exact UInt64.toNat_inj.1 (Int.ofNat_inj.1 same)

/-! ## Words -/

theorem toNat_toUInt64 {i : Int64} (h : 0 ≤ i.toInt) : (i.toUInt64.toNat : Int) = i.toInt := by
  rw [Int64.toNat_toUInt64_of_le (Int64.le_iff_toInt_le.2 h)]
  exact Int.toNat_of_nonneg h

theorem toInt_toInt64 {n : UInt64} (h : n.toNat < 2 ^ 63) : n.toInt64.toInt = n.toNat :=
  BitVec.toInt_eq_toNat_of_lt (show 2 * n.toNat < 2 ^ 64 by omega)

/-- A number of so few bits is not changed by leaving out the others. -/
theorem bmod_of_mem {n : Int} {bits : Nat} (least : -2 ^ bits ≤ n) (most : n ≤ 2 ^ bits - 1) :
    n.bmod (2 ^ (bits + 1)) = n := by
  have power : ((2 ^ (bits + 1) : Nat) : Int) = 2 ^ bits * 2 := by
    push_cast
    ring
  apply Int.bmod_eq_of_le <;> omega

/-- Leaving out all bits but the lowest does not change a number that these can hold. -/
theorem toNat_mod_of_mem {i : Int64} {size : Nat} (least : 0 ≤ i.toInt) (most : i.toInt ≤ size - 1) :
    ((i.toUInt64.toNat % size : Nat) : Int) = i.toInt := by
  have word := toNat_toUInt64 least
  rw [Nat.mod_eq_of_lt (by omega), word]

/-! ## Elements as values -/

/-- An element that the integers of values reach becomes its number. -/
theorem toValue_of_number_lt (h : t.range? = some (low, high)) {x : t.Carrier}
    (reached : t.number x < 2 ^ 63) :
    ∃ i : Int64, t.toValue x = .integer i ∧ i.toInt = t.number x := by
  cases t <;> cases h
  case int8 => exact ⟨_, rfl, Int8.toInt_toInt64 x⟩
  case int16 => exact ⟨_, rfl, Int16.toInt_toInt64 x⟩
  case int32 => exact ⟨_, rfl, Int32.toInt_toInt64 x⟩
  case int64 => exact ⟨x, rfl, rfl⟩
  case uint8 => exact ⟨_, rfl, toInt_toInt64 (Nat.lt_trans x.toNat_lt (by decide))⟩
  case uint16 => exact ⟨_, rfl, toInt_toInt64 (Nat.lt_trans x.toNat_lt (by decide))⟩
  case uint32 => exact ⟨_, rfl, toInt_toInt64 (Nat.lt_trans x.toNat_lt (by decide))⟩
  all_goals
    have small : x.toNat < 2 ^ 63 := Int.ofNat_lt.1 reached
    exact ⟨x.toInt64, if_pos (Int.le_sub_one_of_lt reached), toInt_toInt64 small⟩

/-! ## Values as elements -/

/-- A conversion that keeps the numbers between two bounds gives the number that was read. -/
theorem map_integerWithin? {α : Type} {f : Int64 → α} {number : α → Int}
    (keeps : ∀ i : Int64, low ≤ i.toInt → i.toInt ≤ high → number (f i) = i.toInt) (v : Value) :
    ((integerWithin? low high v).map f).map number =
      (v.asInt64?.map Int64.toInt).bind (within low high) := by
  unfold integerWithin? within
  cases v.asInt64? with
  | none => rfl
  | some i =>
    by_cases h : low ≤ i.toInt ∧ i.toInt ≤ high
    · have kept := keeps i h.1 h.2
      simp [Option.filter_some, h, kept]
    · simp [Option.filter_some, h]

theorem map_asNatural? {v : Value} (no_text : ∀ s, v ≠ .text s) :
    v.asNatural?.map (fun n => (n.toNat : Int)) =
      (v.asInt64?.map Int64.toInt).bind (within 0 (2 ^ 64 - 1)) := by
  have natural : v.asNatural? =
      v.asInt64?.bind fun i => if 0 ≤ i.toInt then some i.toUInt64 else none := by
    unfold Value.asNatural?
    split
    · next s => exact absurd rfl (no_text s)
    · rfl
  rw [natural]
  cases v.asInt64? with
  | none => rfl
  | some i =>
    have bound := Int64.toInt_lt i
    simp only [Option.map_some, Option.bind_some, within]
    by_cases h : 0 ≤ i.toInt
    · rw [if_pos h, if_pos (by omega), Option.map_some, toNat_toUInt64 h]
    · rw [if_neg h, if_neg (by omega), Option.map_none]

/-- Reading an element from a value that is no text is reading an integer and keeping it if it lies in
the range. -/
theorem map_number_ofValue? (h : t.range? = some (low, high)) {v : Value}
    (no_text : ∀ s, v ≠ .text s) :
    (t.ofValue? v).map t.number = (v.asInt64?.map Int64.toInt).bind (within low high) := by
  cases t <;> cases h
  case int8 =>
    exact map_integerWithin? (fun i least most =>
      (Int64.toInt_toInt8 i).trans (bmod_of_mem least most)) v
  case int16 =>
    exact map_integerWithin? (fun i least most =>
      (Int64.toInt_toInt16 i).trans (bmod_of_mem least most)) v
  case int32 =>
    exact map_integerWithin? (fun i least most =>
      (Int64.toInt_toInt32 i).trans (bmod_of_mem least most)) v
  case int64 =>
    show v.asInt64?.map Int64.toInt = _
    cases v.asInt64? with
    | none => rfl
    | some i => exact (within_toInt i).symm
  case uint8 =>
    refine map_integerWithin? (f := fun i => i.toUInt64.toUInt8) (fun i least most => ?_) v
    exact (congrArg Nat.cast (UInt64.toNat_toUInt8 _)).trans (toNat_mod_of_mem least most)
  case uint16 =>
    refine map_integerWithin? (f := fun i => i.toUInt64.toUInt16) (fun i least most => ?_) v
    exact (congrArg Nat.cast (UInt64.toNat_toUInt16 _)).trans (toNat_mod_of_mem least most)
  case uint32 =>
    refine map_integerWithin? (f := fun i => i.toUInt64.toUInt32) (fun i least most => ?_) v
    exact (congrArg Nat.cast (UInt64.toNat_toUInt32 _)).trans (toNat_mod_of_mem least most)
  all_goals exact map_asNatural? no_text

end CellType

end EntitySql
