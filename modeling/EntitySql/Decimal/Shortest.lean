/-
  The shortest decimal number that reads back as a given double-precision number: the fewest
  significant digits first, then the nearest of the numbers with so many digits.
-/
import EntitySql.Binary.Binary64

namespace EntitySql

/-- The number `digits * 10 ^ exponent`. -/
structure Decimal where
  digits : Nat
  exponent : Int
  deriving DecidableEq

namespace Decimal

/-- Which of two equally near numbers is taken. -/
inductive Tie where
  | up
  | even

/-- The reals that round to a double-precision number, in quarters of its unit. The ends belong to
the interval exactly when `closed`. -/
structure Interval where
  low : Nat
  centre : Nat
  high : Nat
  closed : Bool

/-- The interval of a positive count of units. Below a power of two the numbers lie twice as
dense, unless they are already as dense as they get. -/
def Interval.ofUnits (units : Nat) : Interval :=
  let step := Binary.double.step units
  let half := 2 * Nat.pow 2 step
  let below :=
    if step > 0 && units = Nat.pow 2 (step + Binary.double.fractionBits) then Nat.pow 2 step
    else half
  { low := 4 * units - below, centre := 4 * units, high := 4 * units + half
    closed := units / Nat.pow 2 step % 2 = 0 }

def Interval.contains (i : Interval) (scale x : Nat) : Bool :=
  if i.closed then i.low * scale ≤ x && x ≤ i.high * scale
  else i.low * scale < x && x < i.high * scale

/-- The multiple of `10 ^ exponent` in the interval that is nearest to its centre, sought among the
two neighbours of the centre. -/
def nearestOnGrid? (tie : Tie) (i : Interval) (exponent : Int) : Option Decimal :=
  let scale := Nat.pow 10 (-exponent).toNat
  let cell := 4 * Binary64.one * Nat.pow 10 exponent.toNat
  let centre := i.centre * scale
  let floor := centre / cell
  let down := centre - floor * cell
  let up := (floor + 1) * cell - centre
  let takeUp : Bool :=
    match tie with
    | .up => up ≤ down
    | .even => up < down || (up = down && floor % 2 = 1)
  match i.contains scale (floor * cell), i.contains scale ((floor + 1) * cell) with
  | true, true => some ⟨if takeUp then floor + 1 else floor, exponent⟩
  | true, false => some ⟨floor, exponent⟩
  | false, true => some ⟨floor + 1, exponent⟩
  | false, false => none

/-- How many digits stand before the decimal point of a positive count of units; not positive when
the number is below one. The factor `10 ^ 343` makes every such number at least one. -/
def pointOfUnits (units : Nat) : Int :=
  (Nat.toDigits 10 (units * Nat.pow 10 343 / Binary64.one)).length - 343

/-- Tries grids of ever more digits. Seventeen digits always suffice. -/
def shortestFrom (tie : Tie) (i : Interval) (point : Int) (digits : Nat) : Nat → Decimal
  | 0 => ⟨0, 0⟩
  | tries + 1 =>
    match nearestOnGrid? tie i (point - digits) with
    | some d => d
    | none => shortestFrom tie i point (digits + 1) tries

/-- The shortest decimal number that reads back as the positive count of units. -/
def shortest (tie : Tie) (units : Nat) : Decimal :=
  shortestFrom tie (Interval.ofUnits units) (pointOfUnits units) 1 17

/-! ## Writing -/

/-- The digits without the zeros at the end, and where the decimal point stands among them. -/
def significant (d : Decimal) : List Char × Int :=
  let digits := Nat.toDigits 10 d.digits
  ((digits.reverse.dropWhile (· = '0')).reverse, digits.length + d.exponent)

/-- The digits before and after the decimal point in positional notation. -/
def positional (digits : List Char) (point : Int) : List Char × List Char :=
  if point ≤ 0 then (['0'], List.replicate (-point).toNat '0' ++ digits)
  else
    let places := point.toNat
    (digits.take places ++ List.replicate (places - digits.length) '0', digits.drop places)

end Decimal

/-- The number in positional notation: the shortest digits, a half going up, no point behind an
integer, and words for what is not a number. -/
def Binary64.text (x : Binary64) : String :=
  match x.datum with
  | .nan => "NaN"
  | .infinite negative => if negative then "-inf" else "inf"
  | .finite negative units =>
    let sign := if negative then "-" else ""
    if units = 0 then sign ++ "0"
    else
      let (digits, point) := (Decimal.shortest .up units).significant
      let (whole, fraction) := Decimal.positional digits point
      sign ++ String.ofList whole ++
        (if fraction.isEmpty then "" else "." ++ String.ofList fraction)

end EntitySql
