/-
  Values: what is bound to a statement's parameters and found in the cells of a result.
-/
import EntitySql.Binary.Binary64
import EntitySql.Calendar.Timestamp

namespace EntitySql

inductive Value where
  | null
  | boolean (b : Bool)
  | integer (i : Int64)
  | float (x : Binary64)
  | timestamp (t : Timestamp)
  | text (s : String)
  deriving DecidableEq, Inhabited

/-- One value per field of an entity or per column of a result. -/
abbrev Row := List Value

namespace Value

def isNull : Value → Bool
  | .null => true
  | _ => false

/-- The kind of value as messages name it. -/
def typeName : Value → String
  | .null => "NULL"
  | .boolean _ => "BOOLEAN"
  | .integer _ => "INTEGER"
  | .float _ => "FLOAT"
  | .timestamp _ => "TIMESTAMP"
  | .text _ => "TEXT"

theorem isNull_iff {v : Value} : v.isNull = true ↔ v = .null := by
  cases v <;> simp [isNull]

/-- The two numbers are less than `2 ^ -52` apart, or both are NaN. -/
def floatsMatch (x y : Binary64) : Bool := (x.isNaN && y.isNaN) || x.isNear y

/-- Equality as it is used between values: integers and floats are compared as numbers, with a
tolerance as soon as a float takes part, and every other pair by content. -/
def matchesValue : Value → Value → Bool
  | .null, .null => true
  | .boolean a, .boolean b => a = b
  | .integer a, .integer b => a = b
  | .float a, .float b => floatsMatch a b
  | .integer a, .float b | .float b, .integer a => (Binary64.ofInt a.toInt).isNear b
  | .timestamp a, .timestamp b => a = b
  | .text a, .text b => a = b
  | _, _ => false

end Value

end EntitySql
