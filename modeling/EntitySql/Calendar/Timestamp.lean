/-
  Dates of the proleptic Gregorian calendar with a time of day, to the nanosecond and without a
  time zone.
-/

namespace EntitySql

/-- Every fourth year is a leap year, except the centuries that 400 does not divide. -/
def isLeapYear (year : Int) : Bool :=
  year % 4 = 0 && (year % 100 ≠ 0 || year % 400 = 0)

/-- The length of a month; there are no days in a month that does not exist. -/
def daysInMonth (year : Int) : Nat → Nat
  | 1 | 3 | 5 | 7 | 8 | 10 | 12 => 31
  | 4 | 6 | 9 | 11 => 30
  | 2 => if isLeapYear year then 29 else 28
  | _ => 0

/-- A day of the years -262143 to 262142. -/
structure Date where
  year : Int
  month : Nat
  day : Nat
  year_mem : -262143 ≤ year ∧ year ≤ 262142
  day_mem : 1 ≤ day ∧ day ≤ daysInMonth year month
  deriving DecidableEq

/-- A time of day. Second 60 is a leap second and may close any minute. -/
structure Time where
  hour : Fin 24
  minute : Fin 60
  second : Fin 61
  nano : Fin 1000000000
  deriving DecidableEq

structure Timestamp where
  date : Date
  time : Time
  deriving DecidableEq

/-- The day, if there is one with these numbers. -/
def Date.of? (year : Int) (month day : Nat) : Option Date :=
  if hy : -262143 ≤ year ∧ year ≤ 262142 then
    if hd : 1 ≤ day ∧ day ≤ daysInMonth year month then some ⟨year, month, day, hy, hd⟩ else none
  else none

/-- The time of day, if there is one with these numbers. -/
def Time.of? (hour minute second nano : Nat) : Option Time :=
  if h : hour < 24 ∧ minute < 60 ∧ second < 61 ∧ nano < 1000000000 then
    some ⟨⟨hour, h.1⟩, ⟨minute, h.2.1⟩, ⟨second, h.2.2.1⟩, ⟨nano, h.2.2.2⟩⟩
  else none

theorem Date.of?_self (d : Date) : Date.of? d.year d.month d.day = some d := by
  simp [Date.of?, d.year_mem, d.day_mem]

theorem Time.of?_self (t : Time) : Time.of? t.hour t.minute t.second t.nano = some t := by
  simp [Time.of?, t.hour.isLt, t.minute.isLt, t.second.isLt, t.nano.isLt]

/-- Midnight of the first of January 1970. -/
def Timestamp.epoch : Timestamp :=
  { date := ⟨1970, 1, 1, by decide, by decide⟩
    time := ⟨0, 0, 0, 0⟩ }

instance : Inhabited Timestamp := ⟨.epoch⟩

end EntitySql
