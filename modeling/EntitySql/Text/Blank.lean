/-
  Blanks: the characters that may surround a value written as text, and texts without them.
-/

namespace EntitySql.Text

/-- Characters with the Unicode property `White_Space`. -/
def isBlank (c : Char) : Bool :=
  let n := c.toNat
  (9 ≤ n && n ≤ 13) || n = 0x20 || n = 0x85 || n = 0xA0 || n = 0x1680 ||
    (0x2000 ≤ n && n ≤ 0x200A) || n = 0x2028 || n = 0x2029 || n = 0x202F || n = 0x205F || n = 0x3000

/-- The text from its first character that is not blank. -/
def skipBlanks : List Char → List Char := List.dropWhile isBlank

/-- The text without blanks at either end. -/
def trim (s : List Char) : List Char :=
  (skipBlanks (skipBlanks s).reverse).reverse

theorem skipBlanks_cons_of_not_blank {c : Char} {s : List Char} (h : isBlank c = false) :
    skipBlanks (c :: s) = c :: s := by simp [skipBlanks, h]

/-- Nothing is cut from a text that starts and ends with visible characters. -/
theorem trim_eq_self {s : List Char} (hfirst : ∀ c ∈ s.head?, isBlank c = false)
    (hlast : ∀ c ∈ s.getLast?, isBlank c = false) : trim s = s := by
  cases s with
  | nil => rfl
  | cons a r =>
    have ha : isBlank a = false := hfirst a rfl
    rw [trim, skipBlanks_cons_of_not_blank ha]
    cases hr : (a :: r).reverse with
    | nil => simp at hr
    | cons z t =>
      have hz : isBlank z = false := hlast z (by
        rw [← List.head?_reverse, hr]; rfl)
      rw [skipBlanks_cons_of_not_blank hz, ← hr, List.reverse_reverse]

end EntitySql.Text
