/-
  The letters and digits of ASCII, and comparison of texts that ignores the case of its letters.
-/

namespace EntitySql.Text

/-- Puts the letters `A` to `Z` in lower case and leaves everything else alone. -/
def asciiLower (s : String) : String := String.ofList (s.toList.map Char.toLower)

/-- Puts the letters `a` to `z` in upper case and leaves everything else alone. -/
def asciiUpper (s : String) : String := String.ofList (s.toList.map Char.toUpper)

/-- Equality of texts up to the case of ASCII letters. -/
def eqIgnoreCase (s t : String) : Bool := asciiLower s = asciiLower t

theorem eqIgnoreCase_refl (s : String) : eqIgnoreCase s s = true := by simp [eqIgnoreCase]

theorem eqIgnoreCase_comm (s t : String) : eqIgnoreCase s t = eqIgnoreCase t s := by
  simp [eqIgnoreCase, eq_comm]

theorem eqIgnoreCase_trans {s t u : String} (hst : eqIgnoreCase s t = true)
    (htu : eqIgnoreCase t u = true) : eqIgnoreCase s u = true := by
  simp_all [eqIgnoreCase]

/-- The value of a text of decimal digits, the first one worth most. -/
def digitsValue (digits : List Char) : Nat := Nat.ofDigitChars 10 digits 0

end EntitySql.Text
