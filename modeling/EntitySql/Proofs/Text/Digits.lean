/-
  Decimal digits: the number that a text of digits stands for, and where such a text ends.
-/
import EntitySql.Calendar.Writer
import EntitySql.Text.Ascii
import EntitySql.Text.Blank
import Mathlib.Data.List.Basic
import Mathlib.Tactic.Ring

namespace EntitySql.Text

/-- There is nothing but digits in the text. -/
def IsDigits (s : List Char) : Prop := ∀ c ∈ s, c.isDigit = true

/-- The text does not go on with a digit. -/
def EndsDigits (s : List Char) : Prop := ∀ c ∈ s.head?, c.isDigit = false

theorem isDigits_nil : IsDigits [] := fun _ h => absurd h List.not_mem_nil

theorem IsDigits.append {s t : List Char} (hs : IsDigits s) (ht : IsDigits t) : IsDigits (s ++ t) :=
  fun c h => (List.mem_append.1 h).elim (hs c) (ht c)

theorem isDigits_replicate_zero (n : Nat) : IsDigits (List.replicate n '0') := by
  intro c h
  rw [List.eq_of_mem_replicate h]
  decide

theorem isDigits_toDigits (n : Nat) : IsDigits (Nat.toDigits 10 n) := fun _ h =>
  Nat.isDigit_of_mem_toDigits (by decide) (by decide) h

theorem isDigits_padded (width n : Nat) : IsDigits (padded width n) :=
  (isDigits_replicate_zero _).append (isDigits_toDigits n)

theorem endsDigits_nil : EndsDigits [] := nofun

theorem endsDigits_cons {c : Char} (h : c.isDigit = false) (s : List Char) : EndsDigits (c :: s) := by
  intro d hd
  cases hd
  exact h

/-! ## Blanks -/

theorem isBlank_of_isDigit {c : Char} (h : c.isDigit = true) : isBlank c = false := by
  rw [Char.isDigit, Bool.and_eq_true, decide_eq_true_eq, decide_eq_true_eq] at h
  have least : 48 ≤ c.toNat := UInt32.le_iff_toNat_le.1 h.1
  have most : c.toNat ≤ 57 := UInt32.le_iff_toNat_le.1 h.2
  unfold isBlank
  simp only [Bool.or_eq_false_iff, Bool.and_eq_false_iff, decide_eq_false_iff_not]
  omega

theorem trim_digits {s : List Char} (h : IsDigits s) : trim s = s :=
  trim_eq_self (fun c hc => isBlank_of_isDigit (h c (List.mem_of_mem_head? hc)))
    (fun c hc => isBlank_of_isDigit (h c (List.mem_of_mem_getLast? hc)))

/-! ## Numbers -/

theorem digitsValue_append (s t : List Char) :
    digitsValue (s ++ t) = digitsValue s * 10 ^ t.length + digitsValue t := by
  unfold digitsValue
  rw [Nat.ofDigitChars_append, Nat.ofDigitChars_eq_ofDigitChars_zero, Nat.mul_comm]

theorem digitsValue_toDigits (n : Nat) : digitsValue (Nat.toDigits 10 n) = n :=
  Nat.ofDigitChars_ten_toDigits

theorem digitsValue_replicate_zero (n : Nat) : digitsValue (List.replicate n '0') = 0 := by
  rw [digitsValue, Nat.ofDigitChars_replicate_zero, Nat.mul_zero]

theorem digitsValue_padded (width n : Nat) : digitsValue (padded width n) = n := by
  unfold padded
  rw [digitsValue_append, digitsValue_replicate_zero, digitsValue_toDigits, Nat.zero_mul, Nat.zero_add]

theorem digit_le_nine {c : Char} (h : c.isDigit = true) : c.toNat - '0'.toNat ≤ 9 := by
  rw [Char.isDigit, Bool.and_eq_true, decide_eq_true_eq, decide_eq_true_eq] at h
  have most : c.toNat ≤ 57 := UInt32.le_iff_toNat_le.1 h.2
  have zero : '0'.toNat = 48 := rfl
  omega

theorem digitsValue_lt {s : List Char} (h : IsDigits s) : digitsValue s < 10 ^ s.length := by
  induction s with
  | nil => decide
  | cons c rest ih =>
    have first : digitsValue [c] ≤ 9 := by
      simpa [digitsValue, Nat.ofDigitChars_cons] using digit_le_nine (h c List.mem_cons_self)
    have others := ih fun d hd => h d (List.mem_cons_of_mem c hd)
    rw [← List.singleton_append, digitsValue_append, List.length_append, List.length_singleton]
    calc digitsValue [c] * 10 ^ rest.length + digitsValue rest
        < digitsValue [c] * 10 ^ rest.length + 10 ^ rest.length := by omega
      _ = (digitsValue [c] + 1) * 10 ^ rest.length := by ring
      _ ≤ 10 * 10 ^ rest.length := Nat.mul_le_mul_right _ (by omega)
      _ = 10 ^ (1 + rest.length) := by ring

theorem length_toDigits_le {n k : Nat} (hk : 0 < k) (h : n < 10 ^ k) :
    (Nat.toDigits 10 n).length ≤ k :=
  (Nat.length_toDigits_le_iff (by decide) hk).2 h

/-- A number that is not zero is written without a zero in front. -/
theorem head?_toDigits_ne {n : Nat} (h : 0 < n) : (Nat.toDigits 10 n).head? ≠ some '0' := by
  induction n using Nat.strongRecOn with
  | ind n ih =>
    by_cases hn : n < 10
    · rw [Nat.toDigits_of_lt_base hn]
      revert h
      have all : ∀ m < 10, 0 < m → [Nat.digitChar m].head? ≠ some '0' := by decide
      exact all n hn
    · rw [Nat.toDigits_of_base_le (by decide) (by omega), List.head?_append]
      have tens := ih (n / 10) (by omega) (by omega)
      cases hd : (Nat.toDigits 10 (n / 10)).head? with
      | none => exact absurd (List.head?_eq_none_iff.1 hd) Nat.toDigits_ne_nil
      | some c => rwa [hd] at tens

theorem length_padded {width n : Nat} (hwidth : 0 < width) (h : n < 10 ^ width) :
    (padded width n).length = width := by
  have short := length_toDigits_le hwidth h
  simp only [padded, List.length_append, List.length_replicate]
  omega

/-! ## The end of a text of digits -/

theorem takeWhile_isDigit_append {digits rest : List Char} (h : IsDigits digits)
    (ends : EndsDigits rest) : (digits ++ rest).takeWhile Char.isDigit = digits := by
  rw [List.takeWhile_append_of_pos h]
  cases rest with
  | nil => simp
  | cons c rest => simp [ends c rfl]

theorem dropWhile_isDigit_append {digits rest : List Char} (h : IsDigits digits)
    (ends : EndsDigits rest) : (digits ++ rest).dropWhile Char.isDigit = rest := by
  rw [List.dropWhile_append_of_pos h]
  cases rest with
  | nil => rfl
  | cons c rest => simp [ends c rfl]

end EntitySql.Text
