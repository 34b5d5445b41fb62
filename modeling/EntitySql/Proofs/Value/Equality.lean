/-
  Equality of values.

  It is symmetric, and reflexive but for the infinite floats, whose difference is no number. It is
  transitive up to two exceptions (`matchesValue_almost_equivalence`): two integers of more than 53 bits
  that become the same float match this float and not each other (`Merged`), and numbers up to one can
  match a number between them and be too far from each other (`Drifted`).

  Values that are no numbers match by content, with one content for NaN, and numbers match if they are
  near and no different integers (`matchesValue_iff`).
-/
import EntitySql.Proofs.Binary.Tolerance
import EntitySql.Proofs.Decimal.Shortest
import EntitySql.Value.Basic

namespace EntitySql.Value

open Binary64 (one tolerance)

/-- The number as a count of units of `2 ^ -1074`, rounded to a float if it is an integer. -/
def units? : Value → Option Int
  | .integer i => (Binary64.ofInt i.toInt).units?
  | .float x => x.units?
  | _ => none

/-- What is compared where there is no number. All NaNs are the same; infinite floats have nothing that
could be compared. -/
def content? : Value → Option Value
  | .integer _ => none
  | .float x => if x.isNaN then some (.float .nan) else none
  | v => some v

def isInfinite : Value → Bool
  | .float x => x.isInfinite
  | _ => false

def IsNear (a b : Value) : Prop :=
  ∃ u v, a.units? = some u ∧ b.units? = some v ∧ (u - v).natAbs < tolerance

def AreDistinctIntegers (a b : Value) : Prop :=
  ∃ i j : Int64, a = .integer i ∧ b = .integer j ∧ i ≠ j

/-- Different integers of more than 53 bits that become the same float. -/
def Merged (a c : Value) : Prop :=
  ∃ i j : Int64, a = .integer i ∧ c = .integer j ∧ i ≠ j ∧
    2 ^ 53 ≤ i.toInt.natAbs ∧ 2 ^ 53 ≤ j.toInt.natAbs ∧
    Binary64.ofInt i.toInt = Binary64.ofInt j.toInt

/-- Numbers from minus one to one whose distance is the tolerance or more, and less than twice as much. -/
def Drifted (a c : Value) : Prop :=
  ∃ u w, a.units? = some u ∧ c.units? = some w ∧ u.natAbs ≤ one ∧ w.natAbs ≤ one ∧
    tolerance ≤ (u - w).natAbs ∧ (u - w).natAbs < 2 * tolerance

variable {a b c : Value}

/-! ## What matches -/

theorem natAbs_toInt_le (i : Int64) : i.toInt.natAbs ≤ 2 ^ 63 := by
  have least := Int64.le_toInt i
  have most := Int64.toInt_lt i
  omega

theorem exists_units_integer (i : Int64) : ∃ u, (Value.integer i).units? = some u :=
  ⟨_, Binary64.units?_ofInt (natAbs_toInt_le i)⟩

theorem content?_float {x : Binary64} :
    (float x).content? = some c ↔ x.isNaN = true ∧ float .nan = c := by
  unfold content?
  rw [Option.ite_none_right_eq_some, Option.some.injEq]

theorem units?_of_isNaN {x : Binary64} (h : x.isNaN = true) : x.units? = none := by
  rw [Binary64.units?, of_decide_eq_true h]
  rfl

theorem units?_of_content (h : a.content? = some c) : a.units? = none := by
  cases a
  case integer => cases h
  case float x => exact units?_of_isNaN (content?_float.1 h).1
  all_goals rfl

theorem isNear_comm : IsNear a b ↔ IsNear b a := by
  have half : ∀ {a b : Value}, IsNear a b → IsNear b a := by
    rintro a b ⟨u, v, hu, hv, near⟩
    exact ⟨v, u, hv, hu, by omega⟩
  exact ⟨half, half⟩

theorem areDistinctIntegers_comm : AreDistinctIntegers a b ↔ AreDistinctIntegers b a := by
  have half : ∀ {a b : Value}, AreDistinctIntegers a b → AreDistinctIntegers b a := by
    rintro a b ⟨i, j, rfl, rfl, different⟩
    exact ⟨j, i, rfl, rfl, different.symm⟩
  exact ⟨half, half⟩

theorem areDistinctIntegers_iff {i j : Int64} :
    AreDistinctIntegers (.integer i) (.integer j) ↔ i ≠ j := by
  constructor
  · rintro ⟨_, _, left, right, different⟩
    cases left
    cases right
    exact different
  · intro different
    exact ⟨i, j, rfl, rfl, different⟩

theorem not_areDistinctIntegers_float {x : Binary64} : ¬AreDistinctIntegers a (.float x) := by
  rintro ⟨_, _, _, float, _⟩
  cases float

theorem isNear_self {u : Int} (h : a.units? = some u) : IsNear a a :=
  ⟨u, u, h, h, by rw [Int.sub_self]; exact Binary64.tolerance_lt_epsilonUnits.1⟩

theorem floatsMatch_iff {x y : Binary64} :
    floatsMatch x y = true ↔
      (∃ c, (Value.float x).content? = some c ∧ (Value.float y).content? = some c) ∨
        IsNear (.float x) (.float y) := by
  unfold floatsMatch
  rw [Bool.or_eq_true, Bool.and_eq_true, Binary64.isNear_iff]
  refine or_congr ?_ Iff.rfl
  simp only [content?_float]
  constructor
  · rintro ⟨nan_x, nan_y⟩
    exact ⟨_, ⟨nan_x, rfl⟩, nan_y, rfl⟩
  · rintro ⟨c, ⟨nan_x, -⟩, nan_y, -⟩
    exact ⟨nan_x, nan_y⟩

/-- Values without a number match by content. Numbers match if they are near, and two integers only if
they are the same. -/
theorem matchesValue_iff :
    a.matchesValue b = true ↔
      (∃ c, a.content? = some c ∧ b.content? = some c) ∨ IsNear a b ∧ ¬AreDistinctIntegers a b := by
  cases a <;> cases b
  case integer.integer i j =>
    rw [areDistinctIntegers_iff, not_not]
    simp only [matchesValue, content?, decide_eq_true_eq]
    constructor
    · rintro rfl
      obtain ⟨u, units⟩ := exists_units_integer i
      exact .inr ⟨isNear_self units, rfl⟩
    · rintro (⟨_, none, _⟩ | ⟨_, same⟩)
      · cases none
      · exact same
  case integer.float i y =>
    simp only [not_areDistinctIntegers_float, content?, reduceCtorEq, false_and, exists_false,
      false_or, not_false_eq_true, and_true]
    exact Binary64.isNear_iff
  case float.integer x j =>
    rw [isNear_comm, areDistinctIntegers_comm]
    simp only [not_areDistinctIntegers_float, content?, reduceCtorEq, and_false, exists_false,
      false_or, not_false_eq_true, and_true]
    exact Binary64.isNear_iff
  case float.float x y =>
    simp only [not_areDistinctIntegers_float, not_false_eq_true, and_true]
    exact floatsMatch_iff
  case boolean.boolean | timestamp.timestamp | text.text =>
    simp [matchesValue, content?, IsNear, units?, eq_comm]
  all_goals simp [matchesValue, content?, IsNear, units?]

/-! ## Numbers -/

theorem isDouble_units {u : Int} (h : a.units? = some u) : Binary.IsDouble u.natAbs := by
  cases a
  case integer | float => exact Binary64.isDouble_natAbs h
  all_goals cases h

section Integers

variable {i j : Int64} {u : Int} (units_i : (Value.integer i).units? = some u)
include units_i

theorem eq_of_units_integer (small : i.toInt.natAbs < 2 ^ 53) : u = i.toInt * one :=
  Option.some.inj (units_i.symm.trans (Binary64.units?_ofInt_of_lt small))

theorem le_of_units_integer (large : 2 ^ 53 ≤ i.toInt.natAbs) : 2 ^ 53 * one ≤ u.natAbs :=
  Binary64.le_units_ofInt large (natAbs_toInt_le i) units_i

theorem lt_of_units_integer (small : i.toInt.natAbs < 2 ^ 53) : u.natAbs < 2 ^ 53 * one := by
  rw [eq_of_units_integer units_i small, Int.natAbs_mul, Int.natAbs_natCast]
  exact Nat.mul_lt_mul_of_pos_right small Decimal.some_one

/-- Different integers with the same units have more than 53 bits. -/
theorem large_of_same_units (different : i ≠ j) (units_j : (Value.integer j).units? = some u) :
    2 ^ 53 ≤ i.toInt.natAbs := by
  by_contra less
  have small := Nat.lt_of_not_le less
  have unit := Decimal.some_one
  rcases Nat.lt_or_ge j.toInt.natAbs (2 ^ 53) with small' | large
  · have products : i.toInt * one = j.toInt * one :=
      (eq_of_units_integer units_i small).symm.trans (eq_of_units_integer units_j small')
    have same := Int.eq_of_mul_eq_mul_right (by omega) products
    exact different (Int64.toInt_inj.1 same)
  · have near := lt_of_units_integer units_i small
    have far := le_of_units_integer units_j large
    omega

theorem eq_of_units_integer_of_le (small : u.natAbs ≤ one) : u = i.toInt * one := by
  apply eq_of_units_integer units_i
  by_contra large
  have far := le_of_units_integer units_i (Nat.le_of_not_lt large)
  have unit := Decimal.some_one
  omega

end Integers

theorem merged_of_same_units {u : Int} (different : AreDistinctIntegers a c)
    (units_a : a.units? = some u) (units_c : c.units? = some u) : Merged a c := by
  obtain ⟨i, j, rfl, rfl, different⟩ := different
  have large := large_of_same_units units_a different units_c
  have far := le_of_units_integer units_a large
  have unit := Decimal.some_one
  exact ⟨i, j, rfl, rfl, different, large, large_of_same_units units_c different.symm units_a,
    Binary64.ofInt_eq_of_units (natAbs_toInt_le i) (natAbs_toInt_le j) units_a units_c (by omega)⟩

theorem areDistinctIntegers_of_merged (h : Merged a c) : AreDistinctIntegers a c := by
  obtain ⟨i, j, integer_a, integer_c, different, -⟩ := h
  exact ⟨i, j, integer_a, integer_c, different⟩

theorem two_tolerance_lt_one : 2 * tolerance < one := by decide +kernel

/-- Integers from minus one to one are exact, so different ones are one apart. -/
theorem le_of_areDistinctIntegers {u w : Int} (different : AreDistinctIntegers a c)
    (units_a : a.units? = some u) (units_c : c.units? = some w) (small_a : u.natAbs ≤ one)
    (small_c : w.natAbs ≤ one) : 2 * tolerance ≤ (u - w).natAbs := by
  obtain ⟨i, j, rfl, rfl, different⟩ := different
  have apart : i.toInt - j.toInt ≠ 0 := fun same => different (Int64.toInt_inj.1 (by omega))
  have distance : one ≤ (u - w).natAbs := by
    rw [eq_of_units_integer_of_le units_a small_a, eq_of_units_integer_of_le units_c small_c,
      ← Int.sub_mul, Int.natAbs_mul, Int.natAbs_natCast]
    exact Nat.le_mul_of_pos_left _ (Int.natAbs_pos.2 apart)
  have small := two_tolerance_lt_one
  omega

theorem matchesValue_of_units {u w : Int} (units_a : a.units? = some u) (units_c : c.units? = some w) :
    a.matchesValue c = true ↔ (u - w).natAbs < tolerance ∧ ¬AreDistinctIntegers a c := by
  rw [matchesValue_iff]
  constructor
  · rintro (⟨d, content, -⟩ | ⟨⟨u', w', units_a', units_c', near⟩, same⟩)
    · rw [units?_of_content content] at units_a
      cases units_a
    · cases units_a.symm.trans units_a'
      cases units_c.symm.trans units_c'
      exact ⟨near, same⟩
  · rintro ⟨near, same⟩
    exact .inr ⟨⟨u, w, units_a, units_c, near⟩, same⟩

theorem drifted_iff {u w : Int} (units_a : a.units? = some u) (units_c : c.units? = some w) :
    Drifted a c ↔ u.natAbs ≤ one ∧ w.natAbs ≤ one ∧ tolerance ≤ (u - w).natAbs ∧
      (u - w).natAbs < 2 * tolerance := by
  constructor
  · rintro ⟨u', w', units_a', units_c', drift⟩
    cases units_a.symm.trans units_a'
    cases units_c.symm.trans units_c'
    exact drift
  · intro drift
    exact ⟨u, w, units_a, units_c, drift⟩

/-! ## The laws -/

section Transitivity

variable {u v w : Int} (units_a : a.units? = some u) (units_b : b.units? = some v)
  (units_c : c.units? = some w) (near : (u - v).natAbs < tolerance)
  (near' : (v - w).natAbs < tolerance)
include units_a units_b units_c near near'

/-- Past one, near numbers are the same. -/
theorem matchesValue_iff_of_large (large : one < v.natAbs) :
    a.matchesValue c = true ↔ ¬Merged a c ∧ ¬Drifted a c := by
  have double := isDouble_units units_b
  have same : v = u := Binary64.eq_of_near double (isDouble_units units_a) large (by omega)
  have same' : v = w := Binary64.eq_of_near double (isDouble_units units_c) large near'
  subst same same'
  have merged : AreDistinctIntegers a c ↔ Merged a c :=
    ⟨fun different => merged_of_same_units different units_a units_c, areDistinctIntegers_of_merged⟩
  have none : (v - v).natAbs < tolerance := by omega
  have still : ¬Drifted a c := by
    rw [drifted_iff units_a units_c]
    omega
  rw [matchesValue_of_units units_a units_c, merged]
  exact ⟨fun h => ⟨h.2, still⟩, fun h => ⟨none, h.1⟩⟩

/-- Up to one, different integers are too far from each other for any number between them. -/
theorem matchesValue_iff_of_small (small : v.natAbs ≤ one) :
    a.matchesValue c = true ↔ ¬Merged a c ∧ ¬Drifted a c := by
  have double := isDouble_units units_b
  have small_a : u.natAbs ≤ one := by
    by_contra large
    have same := Binary64.eq_of_near (isDouble_units units_a) double (Nat.lt_of_not_le large) near
    omega
  have small_c : w.natAbs ≤ one := by
    by_contra large
    have same := Binary64.eq_of_near (isDouble_units units_c) double (Nat.lt_of_not_le large) (by omega)
    omega
  have alike : ¬AreDistinctIntegers a c := by
    intro different
    have far := le_of_areDistinctIntegers different units_a units_c small_a small_c
    omega
  have unmerged : ¬Merged a c := fun merged => alike (areDistinctIntegers_of_merged merged)
  have drifted : Drifted a c ↔ ¬(u - w).natAbs < tolerance := by
    rw [drifted_iff units_a units_c]
    omega
  rw [matchesValue_of_units units_a units_c, drifted, not_not]
  exact ⟨fun h => ⟨unmerged, h.1⟩, fun h => ⟨h.2, alike⟩⟩

end Transitivity

theorem matchesValue_comm (a b : Value) : a.matchesValue b = b.matchesValue a := by
  rw [Bool.eq_iff_iff, matchesValue_iff, matchesValue_iff, isNear_comm, areDistinctIntegers_comm]
  simp only [and_comm]

theorem content_or_units_iff :
    ((∃ d, a.content? = some d) ∨ ∃ u, a.units? = some u) ↔ a.isInfinite = false := by
  cases a
  case integer i =>
    obtain ⟨u, units⟩ := exists_units_integer i
    exact ⟨fun _ => rfl, fun _ => .inr ⟨u, units⟩⟩
  case float x =>
    have content : (∃ d, (float x).content? = some d) ↔ x.isNaN = true := by
      simp only [content?_float, exists_and_left, exists_eq', and_true]
    rw [content]
    exact Binary64.isInfinite_eq_false_iff.symm
  all_goals exact ⟨fun _ => rfl, fun _ => .inl ⟨_, rfl⟩⟩

theorem not_areDistinctIntegers_self : ¬AreDistinctIntegers a a := by
  rintro ⟨i, j, rfl, same, different⟩
  cases same
  exact different rfl

/-- Every value but the infinite floats matches itself. -/
theorem matchesValue_self_iff (a : Value) : a.matchesValue a = true ↔ a.isInfinite = false := by
  rw [matchesValue_iff, ← content_or_units_iff]
  constructor
  · rintro (⟨d, content, -⟩ | ⟨⟨u, -, units, -⟩, -⟩)
    · exact .inl ⟨d, content⟩
    · exact .inr ⟨u, units⟩
  · rintro (⟨d, content⟩ | ⟨u, units⟩)
    · exact .inl ⟨d, content, content⟩
    · exact .inr ⟨isNear_self units, not_areDistinctIntegers_self⟩

/-- Where one value matches two others, these match each other unless they are merged or drifted. -/
theorem matchesValue_trans_iff (left : a.matchesValue b = true) (right : b.matchesValue c = true) :
    a.matchesValue c = true ↔ ¬Merged a c ∧ ¬Drifted a c := by
  -- A value has a content or units and not both, so all three are compared in the same way.
  rw [matchesValue_iff] at left right
  obtain ⟨d, content_a, content_b⟩ | ⟨⟨u, v, units_a, units_b, near⟩, -⟩ := left
  · obtain ⟨e, content_b', content_c⟩ | ⟨⟨v, -, units_b, -⟩, -⟩ := right
    · cases content_b.symm.trans content_b'
      have no_units := units?_of_content content_a
      have unmerged : ¬Merged a c := by
        rintro ⟨i, -, rfl, -⟩
        cases content_a
      have still : ¬Drifted a c := by
        rintro ⟨u, -, units_a, -⟩
        cases no_units.symm.trans units_a
      have same : a.matchesValue c = true := matchesValue_iff.2 (.inl ⟨d, content_a, content_c⟩)
      exact ⟨fun _ => ⟨unmerged, still⟩, fun _ => same⟩
    · rw [units?_of_content content_b] at units_b
      cases units_b
  · obtain ⟨e, content_b, -⟩ | ⟨⟨v', w, units_b', units_c, near'⟩, -⟩ := right
    · rw [units?_of_content content_b] at units_b
      cases units_b
    · cases units_b.symm.trans units_b'
      rcases Nat.lt_or_ge one v.natAbs with large | small
      · exact matchesValue_iff_of_large units_a units_b units_c near near' large
      · exact matchesValue_iff_of_small units_a units_b units_c near near' small

/-- Equality of values is symmetric; it is reflexive but for the infinite floats, and transitive but for
values that are merged or drifted. -/
theorem matchesValue_almost_equivalence (a b c : Value) :
    (a.matchesValue a = true ↔ a.isInfinite = false) ∧
    a.matchesValue b = b.matchesValue a ∧
    (a.matchesValue b = true → b.matchesValue c = true →
      (a.matchesValue c = true ↔ ¬Merged a c ∧ ¬Drifted a c)) :=
  ⟨matchesValue_self_iff a, matchesValue_comm a b, matchesValue_trans_iff⟩

/-- One as an integer, the float next below it, and one as a float. -/
theorem matchesValue_almost_equivalence_one :
    let a : Value := .integer 1
    let b : Value := .float ⟨0x3fefffffffffffff⟩
    let c : Value := .float ⟨0x3ff0000000000000⟩
    a.matchesValue b = true ∧ b.matchesValue c = true ∧ a.matchesValue c = true ∧
      ¬Merged a c ∧ ¬Drifted a c := by
  intro a b c
  have left : a.matchesValue b = true := by decide +kernel
  have right : b.matchesValue c = true := by decide +kernel
  have outer : a.matchesValue c = true := by decide +kernel
  exact ⟨left, right, outer, ((matchesValue_almost_equivalence a b c).2.2 left right).1 outer⟩

/-- Infinity does not match itself. `2 ^ 53` and the next integer match the float `2 ^ 53` and not each
other, and so do zero and three halves of `2 ^ -52` with the number in the middle. -/
theorem matchesValue_not_equivalence :
    (Value.float ⟨0x7ff0000000000000⟩).matchesValue (.float ⟨0x7ff0000000000000⟩) = false ∧
    ((Value.integer 9007199254740992).matchesValue (.float ⟨0x4340000000000000⟩) = true ∧
      (Value.float ⟨0x4340000000000000⟩).matchesValue (.integer 9007199254740993) = true ∧
      (Value.integer 9007199254740992).matchesValue (.integer 9007199254740993) = false) ∧
    ((Value.integer 0).matchesValue (.float ⟨0x3ca8000000000000⟩) = true ∧
      (Value.float ⟨0x3ca8000000000000⟩).matchesValue (.float ⟨0x3cb8000000000000⟩) = true ∧
      (Value.integer 0).matchesValue (.float ⟨0x3cb8000000000000⟩) = false) := by
  decide +kernel

end EntitySql.Value
