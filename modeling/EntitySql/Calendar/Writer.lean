/-
  Timestamps as text: `year-month-day`, a separator, `hour:minute:second` and a fraction of three,
  six or nine digits, or none.
-/
import EntitySql.Calendar.Timestamp

namespace EntitySql

/-- A number in at least `width` digits. -/
def padded (width n : Nat) : List Char :=
  let digits := Nat.toDigits 10 n
  List.replicate (width - digits.length) '0' ++ digits

/-- Years of four digits stand alone, all others carry a sign. -/
def Date.yearText (year : Int) : List Char :=
  if 0 ≤ year ∧ year < 10000 then padded 4 year.toNat
  else (if year < 0 then '-' else '+') :: padded 4 year.natAbs

def Date.text (d : Date) : List Char :=
  yearText d.year ++ '-' :: padded 2 d.month ++ '-' :: padded 2 d.day

/-- The fewest of zero, three, six and nine digits that show the fraction of the second. -/
def Time.places (t : Time) : Nat :=
  if t.nano.val = 0 then 0
  else if t.nano.val % 1000000 = 0 then 3
  else if t.nano.val % 1000 = 0 then 6
  else 9

/-- The fraction of the second in the given number of digits, at most nine. -/
def Time.fractionText (t : Time) (places : Nat) : List Char :=
  if places = 0 then [] else '.' :: padded places (t.nano.val / Nat.pow 10 (9 - places))

def Time.text (t : Time) (places : Nat) : List Char :=
  padded 2 t.hour ++ ':' :: padded 2 t.minute ++ ':' :: padded 2 t.second ++ t.fractionText places

/-- The timestamp with a separator between date and time and a chosen number of digits in the
fraction. -/
def Timestamp.textWith (ts : Timestamp) (separator : Char) (places : Nat) : String :=
  String.ofList (ts.date.text ++ separator :: ts.time.text places)

/-- The timestamp with just the digits that its fraction needs. -/
def Timestamp.text (ts : Timestamp) (separator : Char) : String :=
  ts.textWith separator ts.time.places

end EntitySql
