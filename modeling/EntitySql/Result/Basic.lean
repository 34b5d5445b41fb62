/-
  Result sets: what a query answers, with the labels that the database gives its columns.
-/
import EntitySql.Error
import EntitySql.Text.Ascii
import EntitySql.Value.Number

namespace EntitySql

/-- Labels and rows. A row should have one cell per label. -/
structure ResultSet where
  labels : List String
  rows : List Row
  deriving DecidableEq

namespace ResultSet

def empty : ResultSet := ⟨[], []⟩

instance : Inhabited ResultSet := ⟨empty⟩

/-- The place of the first column with a label, whatever the case of its ASCII letters. -/
def labelIndex? (r : ResultSet) (label : String) : Option Nat :=
  r.labels.findIdx? fun l => Text.eqIgnoreCase l label

/-- The first cell of the first row. -/
def scalar? (r : ResultSet) : Option Value := r.rows.head?.bind List.head?

/-- The number that the answer to a count holds. -/
def count (r : ResultSet) : Except Error UInt64 :=
  match r.scalar? with
  | none => .error .countMissing
  | some cell =>
    match cell.asInt64? with
    | some i => if 0 ≤ i.toInt then .ok i.toUInt64 else .error (.countInvalid cell)
    | none => .error (.countInvalid cell)

end ResultSet

end EntitySql
