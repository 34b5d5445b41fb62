/-
  The numbers that documents mean. Integers of 64 bits are exact. All other numbers are floats: their
  leading digits, as many as make a 64-bit number, are scaled by a power of ten in one rounded step,
  so the last bit is not always the nearest.
-/
import EntitySql.Binary.Binary64
import EntitySql.Json.Basic
import EntitySql.Text.Ascii

namespace EntitySql

inductive Number where
  | natural (n : UInt64)
  | negative (i : Int64)
  | float (x : Binary64)
  deriving DecidableEq

namespace Number

/-- A leading number takes in digits as long as it fits in 64 bits; what is left is returned. -/
def takeDigits (leading : Nat) : List Char → Nat × List Char
  | [] => (leading, [])
  | c :: rest =>
    let n := leading * 10 + (c.toNat - '0'.toNat)
    if n < UInt64.size then takeDigits n rest else (leading, c :: rest)

/-- The units of a float that is not negative. -/
def magnitude (x : Binary64) : Nat := (x.units?.getD 0).natAbs

def powerOfTen (n : Nat) : Nat := magnitude (.ofInt (Nat.pow 10 n))

/-- The float times a power of ten, unless that is too large. Powers below `10 ^ -308` are applied
in several steps, of which `steps` are left; after two of them nothing but zero remains. -/
def scale? (steps : Nat) (x : Binary64) (exponent : Int) : Option Binary64 :=
  if exponent.natAbs ≤ 308 then
    if 0 ≤ exponent then
      let y := Binary64.mulMagnitude (magnitude x) (powerOfTen exponent.natAbs)
      if y.isInfinite then none else some y
    else some (.divMagnitude (magnitude x) (powerOfTen exponent.natAbs))
  else if magnitude x = 0 then some x
  else if 0 ≤ exponent then none
  else
    match steps with
    | 0 => some (.zero false)
    | steps + 1 =>
      scale? steps (.divMagnitude (magnitude x) (powerOfTen 308)) (exponent + 308)

/-- The float for leading digits and an exponent given in digits. Exponents that do not fit in
32 bits are not looked at any further. -/
def float? (leading : Nat) (shift : Int) (exponent : Option (Bool × List Char)) :
    Option Binary64 :=
  match exponent with
  | none => scale? 3 (.ofInt leading) shift
  | some (isNegative, digits) =>
    let e := Text.digitsValue digits
    if e ≤ Int32.maxValue.toInt then
      scale? 3 (.ofInt leading) (if isNegative then shift - e else shift + e)
    else if leading = 0 ∨ isNegative then some (.zero false)
    else none

/-- The integer that digits without point and exponent mean. There is no integer minus zero. -/
def integer? (isNegative : Bool) (n : Nat) : Option Number :=
  if isNegative then
    if 0 < n ∧ Int64.minValue.toInt ≤ -n then some (.negative (Int64.ofInt (-n))) else none
  else some (.natural (UInt64.ofNat n))

end Number

/-- The number that a text means, unless it is out of range. -/
def NumberText.number? (t : NumberText) : Option Number :=
  let (leading, restWhole) := Number.takeDigits 0 t.whole
  let (all, restFraction) := Number.takeDigits leading t.fraction
  let shift : Int := restWhole.length - (t.fraction.length - restFraction.length : Nat)
  let integer :=
    if t.fraction = [] ∧ t.exponent = none ∧ restWhole = [] then
      Number.integer? t.negative leading
    else none
  integer <|> (Number.float? all shift t.exponent).map fun x =>
    .float (if t.negative then x.neg else x)

end EntitySql
