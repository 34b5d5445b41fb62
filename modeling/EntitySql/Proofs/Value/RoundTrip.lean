/-
  Elements stored as values and read again.

  Numbers, truth values, texts and timestamps, and options of them, come back as they were
  (`CellType.elements_kept_as_values`). A number past the integers of values travels as its decimal text,
  and NULL stands for nothing but the absence of an element. Single precision, which is stored in
  double precision, and values themselves are left out, as are options of options, since both kinds of
  absence are NULL.
-/
import EntitySql.Proofs.Decimal.Integers
import EntitySql.Proofs.Value.Integers

namespace EntitySql.CellType

/-- The types of one number, truth value, text or timestamp, single precision apart. -/
def isSimple : CellType → Bool
  | .float32 | .value | .optional _ => false
  | _ => true

/-- Simple types and options of them. -/
def isNative : CellType → Bool
  | .optional inner => inner.isSimple
  | t => t.isSimple

theorem isNative_cases {t : CellType} (native : t.isNative = true) :
    t.isSimple = true ∨ ∃ inner : CellType, t = optional inner ∧ inner.isSimple = true := by
  cases t
  case optional inner => exact .inr ⟨inner, rfl, native⟩
  all_goals exact .inl native

/-- The element is the one of an option that holds nothing. -/
def isAbsent : (t : CellType) → t.Carrier → Bool
  | .optional _, x => Option.isNone x
  | _, _ => false

variable {t : CellType} {low high : Int}

/-! ## Integers -/

theorem asNatural?_text (n : UInt64) : (Value.text (toString n.toNat)).asNatural? = some n := by
  show (Decimal.readNatural? (Text.trim (toString n.toNat).toList)).bind uint64OfNat? = some n
  rw [Decimal.readNatural?_text, Option.bind_some, uint64OfNat?, if_pos n.toNat_lt, UInt64.ofNat_toNat]

/-- A number that the integers of values do not reach travels as its decimal text. -/
theorem wideValue_of_le {n : UInt64} (far : 2 ^ 63 ≤ (n.toNat : Int)) :
    wideValue n = .text (toString n.toNat) := by
  have largest : Int64.maxValue.toInt = 2 ^ 63 - 1 := by decide
  exact if_neg (by omega)

/-- Only the types of 64 bits without sign have numbers that the integers of values do not reach. -/
theorem toValue_of_le_number (h : t.range? = some (low, high)) {x : t.Carrier}
    (far : 2 ^ 63 ≤ t.number x) :
    t.toValue x = .text (toString (t.number x)) ∧
      t.ofValue? (.text (toString (t.number x))) = some x := by
  have most := (number_mem h x).2
  cases t <;> cases h
  case uint64 => exact ⟨wideValue_of_le far, asNatural?_text x⟩
  case size => exact ⟨wideValue_of_le far, asNatural?_text x⟩
  all_goals omega

theorem ofValue?_toValue_integer (h : t.range? = some (low, high)) (x : t.Carrier) :
    t.ofValue? (t.toValue x) = some x := by
  rcases Int.lt_or_le (t.number x) (2 ^ 63) with reached | far
  · obtain ⟨i, value, number⟩ := toValue_of_number_lt h reached
    have read := map_number_ofValue? h (v := .integer i) nofun
    rw [Value.asInt64?, Option.map_some, Option.bind_some, number, within_eq_some (number_mem h x)] at read
    obtain ⟨y, element, same⟩ := Option.map_eq_some_iff.1 read
    rw [value, element, number_injective h same]
  · obtain ⟨value, read⟩ := toValue_of_le_number h far
    rw [value, read]

theorem toValue_integer_ne_null (h : t.range? = some (low, high)) (x : t.Carrier) :
    t.toValue x ≠ .null := by
  rcases Int.lt_or_le (t.number x) (2 ^ 63) with reached | far
  · obtain ⟨i, value, -⟩ := toValue_of_number_lt h reached
    rw [value]
    nofun
  · rw [(toValue_of_le_number h far).1]
    nofun

/-! ## Simple types and options -/

theorem number_of_range?_eq_none (h : t.range? = none) (x : t.Carrier) : t.number x = 0 := by
  cases t
  case float32 | float64 | boolean | text | timestamp | value | optional => rfl
  all_goals cases h

/-- A simple type is an integer type, or its elements are values of one kind. -/
theorem ofValue?_toValue_simple (simple : t.isSimple = true) (x : t.Carrier) :
    t.ofValue? (t.toValue x) = some x ∧ t.toValue x ≠ .null := by
  cases range : t.range? with
  | some r => exact ⟨ofValue?_toValue_integer range x, toValue_integer_ne_null range x⟩
  | none =>
    cases t
    case float64 | boolean | text | timestamp => exact ⟨rfl, nofun⟩
    case float32 | value | optional => cases simple
    all_goals cases range

/-- The value of an integer that is given directly. -/
theorem integer_ofInt_number (h : t.range? = some (low, high)) {x : t.Carrier}
    (reached : t.number x < 2 ^ 63) : t.toValue x = .integer (.ofInt (t.number x)) := by
  obtain ⟨i, value, number⟩ := toValue_of_number_lt h reached
  rw [value, ← number, Int64.ofInt_toInt]

/-- What is given directly where a value is expected becomes the value that its type says. -/
theorem parameter?_simple (simple : t.isSimple = true) {give : t.Carrier → Value}
    (h : t.parameter? = some give) (x : t.Carrier) : give x = t.toValue x := by
  cases t
  case int32 | uint32 =>
    cases h
    exact (integer_ofInt_number rfl (Int.lt_of_le_of_lt (number_mem rfl x).2 (by decide))).symm
  case int64 | uint64 | size | float64 | boolean | text | timestamp =>
    cases h
    rfl
  case float32 | value | optional => cases simple
  all_goals cases h

theorem isAbsent_simple (simple : t.isSimple = true) (x : t.Carrier) : t.isAbsent x = false := by
  cases t
  case optional => cases simple
  all_goals rfl

theorem ofCell_of_read {v : Value} {x : t.Carrier} (read : t.ofValue? v = some x) :
    t.ofCell (some v) = x := by
  rw [ofCell, Option.bind_some, read, Option.getD_some]

section Optional

variable {inner : CellType} (simple : inner.isSimple = true)
include simple

/-- NULL is read as nothing and every other value as an element, so it matters that no element of a
simple type is NULL. -/
theorem ofValue?_toValue_optional (x : Option inner.Carrier) :
    (optional inner).ofValue? ((optional inner).toValue x) = some x := by
  cases x with
  | none => rfl
  | some y =>
    obtain ⟨read, some_value⟩ := ofValue?_toValue_simple simple y
    have visible : (inner.toValue y).isNull = false :=
      Bool.eq_false_iff.2 fun null => some_value (Value.isNull_iff.1 null)
    show (if (inner.toValue y).isNull then some none
      else (inner.ofValue? (inner.toValue y)).map some) = _
    rw [visible, read]
    rfl

theorem toValue_optional_eq_null_iff (x : Option inner.Carrier) :
    (optional inner).toValue x = .null ↔ x = none := by
  cases x with
  | none => exact ⟨fun _ => rfl, fun _ => rfl⟩
  | some y => exact ⟨fun null => absurd null (ofValue?_toValue_simple simple y).2, nofun⟩

theorem parameter?_optional {give : Option inner.Carrier → Value}
    (h : (optional inner).parameter? = some give) (x : Option inner.Carrier) :
    give x = (optional inner).toValue x := by
  obtain ⟨giveInner, inner_parameter, rfl⟩ := Option.map_eq_some_iff.1 h
  cases x with
  | none => rfl
  | some y => exact parameter?_simple simple inner_parameter y

end Optional

/-- An element of a native type is what is read from the value that it becomes, and from the cell that
holds this value. Only the absence of an element becomes NULL, a number past the integers of values
becomes its decimal text, and giving the element directly gives the same value. -/
theorem elements_kept_as_values (native : t.isNative = true) (x : t.Carrier) :
    t.ofValue? (t.toValue x) = some x ∧
      (t.toValue x = .null ↔ t.isAbsent x = true) ∧
      (2 ^ 63 ≤ t.number x → t.toValue x = .text (toString (t.number x))) ∧
      (∀ give ∈ t.parameter?, give x = t.toValue x) ∧
      t.ofCell (some (t.toValue x)) = x := by
  have far : 2 ^ 63 ≤ t.number x → t.toValue x = .text (toString (t.number x)) := by
    intro far
    cases range : t.range? with
    | some r => exact (toValue_of_le_number range far).1
    | none =>
      rw [number_of_range?_eq_none range] at far
      exact absurd far (by decide)
  rcases isNative_cases native with simple | ⟨inner, rfl, simple⟩
  · obtain ⟨read, some_value⟩ := ofValue?_toValue_simple simple x
    have null : t.toValue x = .null ↔ t.isAbsent x = true := by
      rw [isAbsent_simple simple x]
      exact ⟨fun null => absurd null some_value, nofun⟩
    exact ⟨read, null, far, fun give h => parameter?_simple simple h x, ofCell_of_read read⟩
  · have read := ofValue?_toValue_optional simple x
    have null : (optional inner).toValue x = .null ↔ (optional inner).isAbsent x = true :=
      (toValue_optional_eq_null_iff simple x).trans Option.isNone_iff_eq_none.symm
    exact ⟨read, null, far, fun give h => parameter?_optional simple h x, ofCell_of_read read⟩

/-- The largest number of 64 bits without sign, alone and in an option. -/
theorem elements_kept_as_values_largest :
    let n : UInt64 := 18446744073709551615
    let digits : Value := .text "18446744073709551615"
    (uint64.isNative = true ∧ uint64.toValue n = digits ∧ uint64.ofValue? digits = some n) ∧
      ((optional uint64).isNative = true ∧ (optional uint64).ofCell (some digits) = some n ∧
        (optional uint64).toValue none = .null) := by
  intro n digits
  have travels : uint64.toValue n = digits := by decide
  have alone := (elements_kept_as_values (t := uint64) rfl n).1
  have cell := (elements_kept_as_values (t := optional uint64) rfl (some n)).2.2.2.2
  have absent := (elements_kept_as_values (t := optional uint64) rfl none).2.1
  have stored : (optional uint64).toValue (some n) = digits := travels
  rw [travels] at alone
  rw [stored] at cell
  exact ⟨⟨rfl, travels, alone⟩, ⟨rfl, cell, absent.2 rfl⟩⟩

end EntitySql.CellType
