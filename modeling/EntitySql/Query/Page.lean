/-
  Pages: the window of rows that a query asks for, by an offset and a limit of 64 bits each.
  Arithmetic stops at the largest number instead of wrapping around.
-/

namespace EntitySql

/-- The largest 64-bit natural number. -/
def largestCount : Nat := UInt64.size - 1

/-- The number itself, or the largest one if it is out of range. -/
def saturate (n : Nat) : UInt64 := UInt64.ofNat (min n largestCount)

/-- `limit` rows after the first `offset` rows. -/
structure Page where
  offset : UInt64
  limit : UInt64
  deriving DecidableEq

namespace Page

/-- The page with a number, counted from one. Page zero is the first page too. -/
def numbered (number size : UInt64) : Page :=
  ⟨saturate ((number.toNat - 1) * size.toNat), size⟩

/-- How many rows there are up to the end of the page. -/
def finish (p : Page) : UInt64 := saturate (p.offset.toNat + p.limit.toNat)

end Page

theorem toNat_saturate (n : Nat) : (saturate n).toNat = min n largestCount := by
  simp only [saturate, largestCount, UInt64.size, UInt64.toNat_ofNat']
  omega

end EntitySql
