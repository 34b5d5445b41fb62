/-
  The types that fields of records may have, and how their elements become values and are made of
  values again. What cannot be represented is refused; a record then takes the type's default.
-/
import EntitySql.Binary.Binary32
import EntitySql.Calendar.Reader
import EntitySql.Value.Number
import EntitySql.Value.Text

namespace EntitySql

/-- Types of fields. `size` is the type of counts, 64 bits wide; `value` admits every value. -/
inductive CellType where
  | int8 | int16 | int32 | int64
  | uint8 | uint16 | uint32 | uint64 | size
  | float32 | float64
  | boolean
  | text
  | timestamp
  | value
  | optional (inner : CellType)
  deriving DecidableEq

namespace CellType

/-- The elements of a type. -/
abbrev Carrier : CellType → Type
  | .int8 => Int8
  | .int16 => Int16
  | .int32 => Int32
  | .int64 => Int64
  | .uint8 => UInt8
  | .uint16 => UInt16
  | .uint32 => UInt32
  | .uint64 => UInt64
  | .size => UInt64
  | .float32 => Binary32
  | .float64 => Binary64
  | .boolean => Bool
  | .text => String
  | .timestamp => Timestamp
  | .value => Value
  | .optional inner => Option inner.Carrier

/-- What a record holds where nothing was given. -/
def default : (t : CellType) → t.Carrier
  | .int8 => 0
  | .int16 => 0
  | .int32 => 0
  | .int64 => 0
  | .uint8 => 0
  | .uint16 => 0
  | .uint32 => 0
  | .uint64 => 0
  | .size => 0
  | .float32 => .ofDatum (.finite false 0)
  | .float64 => .zero false
  | .boolean => false
  | .text => ""
  | .timestamp => .epoch
  | .value => .null
  | .optional _ => none

/-- A natural number that the integers of values do not reach travels as decimal text. -/
def wideValue (n : UInt64) : Value :=
  if n.toNat ≤ Int64.maxValue.toInt then .integer n.toInt64 else .text (toString n.toNat)

/-- An element as a value; nothing becomes NULL. -/
def toValue : (t : CellType) → t.Carrier → Value
  | .int8, i => .integer i.toInt64
  | .int16, i => .integer i.toInt64
  | .int32, i => .integer i.toInt64
  | .int64, i => .integer i
  | .uint8, n => .integer n.toUInt64.toInt64
  | .uint16, n => .integer n.toUInt64.toInt64
  | .uint32, n => .integer n.toUInt64.toInt64
  | .uint64, n => wideValue n
  | .size, n => wideValue n
  | .float32, x => .float x.widen
  | .float64, x => .float x
  | .boolean, b => .boolean b
  | .text, s => .text s
  | .timestamp, t => .timestamp t
  | .value, v => v
  | .optional inner, x => match x with
    | some y => inner.toValue y
    | none => .null

/-- The integer that a value stands for, if it lies between the two, both included. -/
def integerWithin? (low high : Int) (v : Value) : Option Int64 :=
  v.asInt64?.filter fun i => low ≤ i.toInt && i.toInt ≤ high

/-- The timestamp that a text spells, with a blank or a `T` between date and time. -/
def timestampOfText? (s : String) : Option Timestamp :=
  Timestamp.read? .spaced s <|> Timestamp.read? .joined s

/-- The element that a value stands for. -/
def ofValue? : (t : CellType) → Value → Option t.Carrier
  | .int8, v => (integerWithin? Int8.minValue.toInt Int8.maxValue.toInt v).map Int64.toInt8
  | .int16, v => (integerWithin? Int16.minValue.toInt Int16.maxValue.toInt v).map Int64.toInt16
  | .int32, v => (integerWithin? Int32.minValue.toInt Int32.maxValue.toInt v).map Int64.toInt32
  | .int64, v => v.asInt64?
  | .uint8, v => (integerWithin? 0 (UInt8.size - 1) v).map fun i => i.toUInt64.toUInt8
  | .uint16, v => (integerWithin? 0 (UInt16.size - 1) v).map fun i => i.toUInt64.toUInt16
  | .uint32, v => (integerWithin? 0 (UInt32.size - 1) v).map fun i => i.toUInt64.toUInt32
  | .uint64, v => v.asNatural?
  | .size, v => v.asNatural?
  | .float32, v => v.asFloat?.map Binary32.ofBinary64
  | .float64, v => v.asFloat?
  | .boolean, v => v.asBool?
  | .text, v => match v with
    | .null => none
    | .text s => some s
    | v => some v.display
  | .timestamp, v => match v with
    | .timestamp t => some t
    | .text s => timestampOfText? s
    | _ => none
  | .value, v => some v
  | .optional inner, v => if v.isNull then some none else (inner.ofValue? v).map some

/-- The element for a cell of a result, which may be absent or of another kind. -/
def ofCell (t : CellType) (cell : Option Value) : t.Carrier :=
  (cell.bind t.ofValue?).getD t.default

/-- The types whose elements can be given directly where a value is expected, and how. -/
def parameter? : (t : CellType) → Option (t.Carrier → Value)
  | .int32 => some fun i => .integer (Int64.ofInt i.toInt)
  | .int64 => some .integer
  | .uint32 => some fun n => .integer (Int64.ofInt n.toNat)
  | .uint64 => some wideValue
  | .size => some wideValue
  | .float64 => some .float
  | .boolean => some .boolean
  | .text => some .text
  | .timestamp => some .timestamp
  | .value => some id
  | .optional inner => inner.parameter?.map fun give x => (x.map give).getD .null
  | .int8 | .int16 | .uint8 | .uint16 | .float32 => none

end CellType

end EntitySql
