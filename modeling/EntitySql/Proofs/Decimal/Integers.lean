/-
  Whole numbers read back from the text that shows them: a natural number from its digits
  (`readNatural?_text`), an integer from its digits and, if it is negative, a minus sign in front of them
  (`readInteger?_text`). Neither text has blanks that could be cut off.
-/
import EntitySql.Decimal.Reader
import EntitySql.Proofs.Text.Digits

namespace EntitySql.Decimal

open Text

theorem readDigits?_toDigits (n : Nat) : readDigits? (Nat.toDigits 10 n) = some n := by
  have digits : (Nat.toDigits 10 n).all Char.isDigit = true :=
    List.all_eq_true.2 (isDigits_toDigits n)
  unfold readDigits?
  rw [if_pos ⟨Nat.toDigits_ne_nil, digits⟩, digitsValue_toDigits]

/-- A text of digits starts with neither sign. -/
theorem readSign_digits {s : List Char} (h : IsDigits s) : readSign s = (false, s) := by
  unfold readSign
  split
  · exact absurd (h '-' List.mem_cons_self) (by decide)
  · exact absurd (h '+' List.mem_cons_self) (by decide)
  · rfl

theorem readNatural?_toDigits (n : Nat) : readNatural? (Nat.toDigits 10 n) = some n := by
  have digits := isDigits_toDigits n
  unfold readNatural?
  split
  · next sign =>
    rw [sign] at digits
    exact absurd (digits '+' List.mem_cons_self) (by decide)
  · exact readDigits?_toDigits n

theorem readNatural?_text (n : Nat) : readNatural? (trim (toString n).toList) = some n := by
  rw [show (toString n).toList = Nat.toDigits 10 n from Nat.toList_repr,
    trim_digits (isDigits_toDigits n), readNatural?_toDigits]

/-- The digits of an integer, behind a minus sign if it is negative. -/
theorem toList_toString_int (i : Int) :
    (toString i).toList =
      if 0 ≤ i then Nat.toDigits 10 i.toNat else '-' :: Nat.toDigits 10 (-i).toNat := by
  rw [show toString i = i.repr from rfl, Int.repr_eq_if]
  split
  · exact Nat.toList_repr
  · rw [String.toList_append, Nat.toList_repr]
    rfl

theorem trim_toString_int (i : Int) : trim (toString i).toList = (toString i).toList := by
  rw [toList_toString_int]
  split
  · exact trim_digits (isDigits_toDigits _)
  · refine trim_eq_self (fun c first => ?_) (fun c last => ?_)
    · cases first
      decide
    · rw [List.getLast?_cons_of_ne_nil Nat.toDigits_ne_nil] at last
      exact isBlank_of_isDigit (isDigits_toDigits _ c (List.mem_of_mem_getLast? last))

theorem readInteger?_text (i : Int) : readInteger? (trim (toString i).toList) = some i := by
  rw [trim_toString_int, toList_toString_int]
  by_cases natural : 0 ≤ i
  · rw [if_pos natural]
    simp [readInteger?, readSign_digits (isDigits_toDigits _), readDigits?_toDigits,
      Int.toNat_of_nonneg natural]
  · have sign : readSign ('-' :: Nat.toDigits 10 (-i).toNat) =
        (true, Nat.toDigits 10 (-i).toNat) := rfl
    rw [if_neg natural]
    simp only [readInteger?, sign, readDigits?_toDigits, if_pos, Option.pure_def, Option.bind_eq_bind,
      Option.bind_some, Option.map_some, Option.some.injEq]
    omega

/-- No natural number has a minus sign. -/
theorem readNatural?_integer (i : Int) :
    readNatural? (trim (toString i).toList) = if 0 ≤ i then some i.toNat else none := by
  rw [trim_toString_int, toList_toString_int]
  split
  · exact readNatural?_toDigits _
  · simp [readNatural?, readDigits?]

end EntitySql.Decimal
