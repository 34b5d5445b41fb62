/-
  Values read as numbers and truth values. Texts count as numbers because some databases report
  their numbers as text.
-/
import EntitySql.Decimal.Reader
import EntitySql.Text.Blank
import EntitySql.Value.Basic

namespace EntitySql

/-- The integer as a 64-bit word with sign, if it fits. -/
def int64OfInt? (i : Int) : Option Int64 :=
  if Int64.minValue.toInt ≤ i ∧ i ≤ Int64.maxValue.toInt then some (Int64.ofInt i) else none

/-- The natural number as a 64-bit word, if it fits. -/
def uint64OfNat? (n : Nat) : Option UInt64 :=
  if n < UInt64.size then some (UInt64.ofNat n) else none

/-- A finite number between `-2 ^ 63` and `2 ^ 63`, both included, without its fraction; the upper
bound itself becomes the largest word. -/
def Binary64.toInt64? (x : Binary64) : Option Int64 :=
  match x.units? with
  | some units =>
    let bound : Int := (Int64.maxValue.toInt + 1) * Binary64.one
    if -bound ≤ units ∧ units ≤ bound then
      some (Int64.ofInt (min (units.tdiv Binary64.one) Int64.maxValue.toInt))
    else none
  | none => none

namespace Value

def asInt64? : Value → Option Int64
  | .integer i => some i
  | .float x => x.toInt64?
  | .text s => (Decimal.readInteger? (Text.trim s.toList)).bind int64OfInt?
  | _ => none

def asFloat? : Value → Option Binary64
  | .float x => some x
  | .integer i => some (.ofInt i.toInt)
  | .text s => Decimal.readBinary64? (Text.trim s.toList)
  | _ => none

def asBool? : Value → Option Bool
  | .boolean b => some b
  | .integer i => some (i ≠ 0)
  | _ => none

def asText? : Value → Option String
  | .text s => some s
  | _ => none

/-- The value as a natural number below `2 ^ 64`. A text may exceed the integers of values. -/
def asNatural? : Value → Option UInt64
  | .text s => (Decimal.readNatural? (Text.trim s.toList)).bind uint64OfNat?
  | v => v.asInt64?.bind fun i => if 0 ≤ i.toInt then some i.toUInt64 else none

end Value

end EntitySql
