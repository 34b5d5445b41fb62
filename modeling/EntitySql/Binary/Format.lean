/-
  Binary floating-point formats with exact arithmetic. Every finite number of a format is a whole
  multiple of its smallest positive number, the unit; so a datum is a sign and a count of units, and
  sums, comparisons and roundings are about integers.
-/

namespace EntitySql.Binary

open Nat (pow)

/-- A binary interchange format: the stored bits of the significand and those of the exponent. -/
structure Format where
  fractionBits : Nat
  exponentBits : Nat

/-- Double precision. -/
def double : Format := ⟨52, 11⟩

/-- Single precision. -/
def single : Format := ⟨23, 8⟩

/-- One is `2 ^ unitPlaces` units. -/
def Format.unitPlaces (f : Format) : Nat := pow 2 (f.exponentBits - 1) - 2 + f.fractionBits

/-- What a word of a format stands for. -/
inductive Datum where
  | nan
  | infinite (negative : Bool)
  | finite (negative : Bool) (units : Nat)
  deriving DecidableEq

/-- The number of units with its sign, for a finite datum. -/
def Datum.units? : Datum → Option Int
  | .finite negative units => some (if negative then -(units : Int) else units)
  | _ => none

/-! ## Words -/

/-- Reads a word: sign, exponent and fraction from its highest bit to its lowest. -/
def Format.decode (f : Format) (word : Nat) : Datum :=
  let fraction := word % pow 2 f.fractionBits
  let exponent := word / pow 2 f.fractionBits % pow 2 f.exponentBits
  let negative := word / pow 2 (f.fractionBits + f.exponentBits) % 2 = 1
  if exponent = pow 2 f.exponentBits - 1 then
    if fraction = 0 then .infinite negative else .nan
  else if exponent = 0 then .finite negative fraction
  else .finite negative ((pow 2 f.fractionBits + fraction) * pow 2 (exponent - 1))

/-- The distance, as a power of two, between the numbers next to `units`. -/
def Format.step (f : Format) (units : Nat) : Nat := units.log2 - f.fractionBits

/-- The word of a datum without its sign. A count of units past the largest finite number becomes
infinity; NaN is written in one way only. -/
def Format.encodeMagnitude (f : Format) : Datum → Nat
  | .nan => (pow 2 f.exponentBits - 1) * pow 2 f.fractionBits + pow 2 (f.fractionBits - 1)
  | .infinite _ => (pow 2 f.exponentBits - 1) * pow 2 f.fractionBits
  | .finite _ units =>
    if units < pow 2 f.fractionBits then units
    else
      let step := f.step units
      min ((step + 1) * pow 2 f.fractionBits + (units / pow 2 step - pow 2 f.fractionBits))
        ((pow 2 f.exponentBits - 1) * pow 2 f.fractionBits)

/-- The word of a datum. -/
def Format.encode (f : Format) (d : Datum) : Nat :=
  match d with
  | .nan => f.encodeMagnitude d
  | .infinite negative | .finite negative _ =>
    (if negative then pow 2 (f.fractionBits + f.exponentBits) else 0) + f.encodeMagnitude d

/-! ## Rounding -/

/-- The whole number nearest to a quotient; a half goes to the even neighbour. -/
def roundQuotient (num den : Nat) : Nat :=
  let q := num / den
  let r := num % den
  if 2 * r > den || (2 * r = den && q % 2 = 1) then q + 1 else q

/-- The count of units of the format nearest to `num / den` units, before the format's largest
number is considered. -/
def Format.roundUnits (f : Format) (num den : Nat) : Nat :=
  let step := f.step (num / den)
  roundQuotient num (den * pow 2 step) * pow 2 step

end EntitySql.Binary
