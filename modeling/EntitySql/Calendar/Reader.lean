/-
  Timestamps read from text. Numbers need not be padded, may follow blanks, and a year of more than
  four digits needs a sign. Three layouts differ in the separator and in where else blanks may stand.
-/
import EntitySql.Calendar.Timestamp
import EntitySql.Text.Ascii
import EntitySql.Text.Blank

namespace EntitySql.Calendar

/-- How date and time are set apart. -/
inductive Separator where
  /-- Any number of blanks, also none. -/
  | blanks
  | letterT

/-- `loose` layouts allow blanks in front of each separating mark and at the end. -/
structure Layout where
  loose : Bool
  separator : Separator

/-- `2024-03-01 09:30:00.5` -/
def Layout.spaced : Layout := ⟨false, .blanks⟩

/-- `2024-03-01T09:30:00.5` -/
def Layout.joined : Layout := ⟨false, .letterT⟩

/-- The form of documents: as `joined`, with blanks allowed. -/
def Layout.document : Layout := ⟨true, .letterT⟩

/-- A number of at least one and at most `width` digits, and the text behind it. -/
def readNumber? (width : Nat) (s : List Char) : Option (Nat × List Char) :=
  let digits := (s.take width).takeWhile Char.isDigit
  if digits = [] then none else some (Text.digitsValue digits, s.drop digits.length)

/-- A signed year has any number of digits, one without a sign at most four. -/
def readYear? (s : List Char) : Option (Int × List Char) :=
  match s with
  | '-' :: rest => (readNumber? rest.length rest).map fun (n, rest) => (-(n : Int), rest)
  | '+' :: rest => (readNumber? rest.length rest).map fun (n, rest) => ((n : Int), rest)
  | s => (readNumber? 4 s).map fun (n, rest) => ((n : Int), rest)

/-- The mark `c`, in a loose layout also behind blanks. -/
def readMark? (loose : Bool) (c : Char) (s : List Char) : Option (List Char) :=
  match if loose then Text.skipBlanks s else s with
  | d :: rest => if d = c then some rest else none
  | [] => none

/-- A number of two digits or one, behind blanks. -/
def readField? (s : List Char) : Option (Nat × List Char) :=
  readNumber? 2 (Text.skipBlanks s)

/-- The nanoseconds in an optional fraction of a second; digits after the ninth are dropped. -/
def readFraction? (s : List Char) : Option (Nat × List Char) :=
  match s with
  | '.' :: rest =>
    let digits := (rest.take 9).takeWhile Char.isDigit
    if digits = [] then none
    else
      some (Text.digitsValue digits * Nat.pow 10 (9 - digits.length), rest.dropWhile Char.isDigit)
  | s => some (0, s)

def readDate? (loose : Bool) (s : List Char) : Option (Date × List Char) := do
  let (year, s) ← readYear? (Text.skipBlanks s)
  let s ← readMark? loose '-' s
  let (month, s) ← readField? s
  let s ← readMark? loose '-' s
  let (day, s) ← readField? s
  let date ← Date.of? year month day
  return (date, s)

def readTime? (loose : Bool) (s : List Char) : Option (Time × List Char) := do
  let (hour, s) ← readField? s
  let s ← readMark? loose ':' s
  let (minute, s) ← readField? s
  let s ← readMark? loose ':' s
  let (second, s) ← readField? s
  let (nano, s) ← readFraction? s
  let time ← Time.of? hour minute second nano
  return (time, s)

def readSeparator? (layout : Layout) (s : List Char) : Option (List Char) :=
  match layout.separator with
  | .blanks => some (Text.skipBlanks s)
  | .letterT => readMark? layout.loose 'T' s

end EntitySql.Calendar

namespace EntitySql

/-- The timestamp that a whole text spells in the layout. -/
def Timestamp.read? (layout : Calendar.Layout) (s : String) : Option Timestamp := do
  let (date, rest) ← Calendar.readDate? layout.loose s.toList
  let rest ← Calendar.readSeparator? layout rest
  let (time, rest) ← Calendar.readTime? layout.loose rest
  if (if layout.loose then Text.skipBlanks rest else rest).isEmpty then some ⟨date, time⟩ else none

end EntitySql
