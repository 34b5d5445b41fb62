/-
  Numbers read from text: integers with an optional sign, and decimal numbers with point and
  exponent, rounded to the nearest double-precision number.
-/
import EntitySql.Binary.Binary64
import EntitySql.Text.Ascii

namespace EntitySql

/-- The double-precision number nearest to `digits * 10 ^ exponent`. Exponents far outside the
range of the format are answered at once, since their powers would be astronomically large. -/
def Binary64.ofDecimal (negative : Bool) (digits : Nat) (exponent : Int) : Binary64 :=
  let size : Int := (Nat.toDigits 10 digits).length + exponent
  if digits = 0 || size < -400 then zero negative
  else if size > 400 then infinity negative
  else ofQuotient negative (digits * Nat.pow 10 exponent.toNat) (Nat.pow 10 (-exponent).toNat)

namespace Decimal

/-- An optional sign and what follows it. -/
def readSign : List Char → Bool × List Char
  | '-' :: rest => (true, rest)
  | '+' :: rest => (false, rest)
  | s => (false, s)

/-- A non-empty text of digits. -/
def readDigits? (s : List Char) : Option Nat :=
  if s ≠ [] ∧ s.all Char.isDigit then some (Text.digitsValue s) else none

/-- A whole number that may carry either sign. -/
def readInteger? (s : List Char) : Option Int :=
  let (negative, digits) := readSign s
  (readDigits? digits).map fun n => if negative then -(n : Int) else n

/-- A whole number that may carry a plus sign. -/
def readNatural? : List Char → Option Nat
  | '+' :: digits => readDigits? digits
  | digits => readDigits? digits

/-- The exponent part of a decimal number, which may be missing. -/
def readExponent? : List Char → Option Int
  | [] => some 0
  | c :: rest => if c = 'e' || c = 'E' then readInteger? rest else none

/-- A decimal number without its sign: digits with at most one point among or around them, and an
exponent part. -/
def readUnsigned? (s : List Char) : Option (Nat × Int) :=
  let whole := s.takeWhile Char.isDigit
  let rest := s.dropWhile Char.isDigit
  let (fraction, rest) :=
    match rest with
    | '.' :: rest => (rest.takeWhile Char.isDigit, rest.dropWhile Char.isDigit)
    | _ => ([], rest)
  if whole = [] ∧ fraction = [] then none
  else (readExponent? rest).map fun e =>
    (Text.digitsValue (whole ++ fraction), e - (fraction.length : Int))

/-- A number as it is commonly written: a sign, then a decimal number or one of the words `inf`,
`infinity` and `nan` in any case. -/
def readBinary64? (s : List Char) : Option Binary64 :=
  let (negative, rest) := readSign s
  match readUnsigned? rest with
  | some (digits, exponent) => some (.ofDecimal negative digits exponent)
  | none =>
    let word := rest.map Char.toLower
    if word = "inf".toList ∨ word = "infinity".toList then some (.infinity negative)
    else if word = "nan".toList then some .nan
    else none

end Decimal

end EntitySql
