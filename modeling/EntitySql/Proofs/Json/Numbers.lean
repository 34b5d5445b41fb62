/-
  The numbers that written digits mean.

  Digits are taken in one after the other as long as the number stays below `2 ^ 64`. So an integer of
  64 bits, with or without sign, comes back from its digits as it was.
-/
import EntitySql.Document.Value
import EntitySql.Proofs.Json.Reading

namespace EntitySql

open Text

/-- Digits that make a number of 64 bits are all taken in. -/
theorem Number.takeDigits_eq {leading : Nat} {digits : List Char}
    (fits : leading * 10 ^ digits.length + digitsValue digits < UInt64.size) :
    takeDigits leading digits = (leading * 10 ^ digits.length + digitsValue digits, []) := by
  induction digits generalizing leading with
  | nil => simp [takeDigits, digitsValue]
  | cons c rest ih =>
    have digit : digitsValue [c] = c.toNat - '0'.toNat := by simp [digitsValue, Nat.ofDigitChars_cons]
    have total : leading * 10 ^ (c :: rest).length + digitsValue (c :: rest) =
        (leading * 10 + (c.toNat - '0'.toNat)) * 10 ^ rest.length + digitsValue rest := by
      rw [← List.singleton_append, digitsValue_append, digit, List.length_append,
        List.length_singleton]
      ring
    rw [total] at fits ⊢
    have next : leading * 10 + (c.toNat - '0'.toNat) < UInt64.size := by
      have grows := Nat.le_mul_of_pos_right (leading * 10 + (c.toNat - '0'.toNat))
        (Nat.pow_pos (n := rest.length) (show 0 < 10 by decide))
      omega
    rw [takeDigits]
    exact (if_pos next).trans (ih fits)

namespace Json

theorem isWritten_digits (negative : Bool) (n : Nat) :
    NumberText.IsWritten ⟨negative, Nat.toDigits 10 n, [], none⟩ where
  whole := by
    rcases Nat.eq_zero_or_pos n with rfl | positive
    · exact .inl rfl
    · exact .inr ⟨Nat.toDigits_ne_nil, head?_toDigits_ne positive, isDigits_toDigits n⟩
  fraction := isDigits_nil
  exponent := nofun

/-- The number that an integer of at most 64 binary digits means. -/
theorem number?_int {i : Int} (fits : i.natAbs < UInt64.size) :
    NumberText.number? ⟨i < 0, Nat.toDigits 10 i.natAbs, [], none⟩ =
      (Number.integer? (i < 0) i.natAbs <|>
        (Number.float? i.natAbs 0 none).map fun x => .float (if i < 0 then x.neg else x)) := by
  have taken : Number.takeDigits 0 (Nat.toDigits 10 i.natAbs) = (i.natAbs, []) := by
    have value := digitsValue_toDigits i.natAbs
    rw [Number.takeDigits_eq (by rwa [value, Nat.zero_mul, Nat.zero_add]), value, Nat.zero_mul,
      Nat.zero_add]
  rw [NumberText.number?, taken]
  simp [Number.takeDigits]

/-- A natural number is read back as one. -/
theorem number?_nat (n : UInt64) :
    NumberText.number? ⟨(n.toNat : Int) < 0, Nat.toDigits 10 (n.toNat : Int).natAbs, [], none⟩ =
      some (.natural n) := by
  rw [number?_int (by simpa using n.toNat_lt)]
  simp [Number.integer?]

/-- A negative integer is read back as one. -/
theorem number?_negative {i : Int64} (h : i.toInt < 0) :
    NumberText.number? ⟨i.toInt < 0, Nat.toDigits 10 i.toInt.natAbs, [], none⟩ =
      some (.negative i) := by
  have least : -2 ^ 63 ≤ i.toInt := i.le_toInt
  have low : Int64.minValue.toInt = -2 ^ 63 := rfl
  have size : UInt64.size = 2 ^ 64 := rfl
  rw [number?_int (by omega)]
  have back : -(i.toInt.natAbs : Int) = i.toInt := by omega
  have fits : 0 < i.toInt.natAbs ∧ Int64.minValue.toInt ≤ -(i.toInt.natAbs : Int) := by omega
  rw [Number.integer?, if_pos (by simpa using h), if_pos fits, back, Int64.ofInt_toInt]
  rfl

theorem asNatural_nat (n : UInt64) : asNatural (.nat n.toNat) = .ok n := by
  rw [nat, int, asNatural, number?_nat]

end Json

/-- An integer of 64 bits is read back as this integer. -/
theorem Value.ofNumber_int (i : Int64) :
    ∃ n, NumberText.number? ⟨i.toInt < 0, Nat.toDigits 10 i.toInt.natAbs, [], none⟩ = some n ∧
      Value.ofNumber n = .integer i := by
  by_cases h : i.toInt < 0
  · exact ⟨.negative i, Json.number?_negative h, rfl⟩
  · have positive : 0 ≤ i := Int64.le_iff_toInt_le.2 (by simpa using h)
    have same : i.toInt = (i.toUInt64.toNat : Int) := by
      rw [Int64.toNat_toUInt64_of_le positive, Int64.cast_toNatClampNeg i positive]
    refine ⟨.natural i.toUInt64, ?_, ?_⟩
    · rw [same, Json.number?_nat]
    · have most : i.toUInt64.toNat ≤ Int64.maxValue.toInt := same ▸ i.toInt_le
      rw [ofNumber, if_pos most]
      rfl

end EntitySql
