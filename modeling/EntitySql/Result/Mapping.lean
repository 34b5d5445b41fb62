/-
  Result sets as elements of an entity and as maps from keys to values.
-/
import EntitySql.Entity.Record
import EntitySql.Entity.Table
import EntitySql.Result.Basic

namespace EntitySql

namespace ResultSet

/-! ## Elements of an entity -/

/-- Which field each label means. -/
def positions (t : Table) (labels : List String) : List (Option Nat) := labels.map t.position?

/-- Puts a value at the place of its field, if it has one. -/
def placeCell (cells : List (Option Value)) : Value × Option Nat → List (Option Value)
  | (value, some i) => cells.set i (some value)
  | (_, none) => cells

/-- The cells of a row, put at the places of their fields. A cell whose label means no field is
left out; of two cells for one field the later one counts. -/
def placeCells (width : Nat) (positions : List (Option Nat)) (row : Row) : List (Option Value) :=
  (row.zip positions).foldl placeCell (List.replicate width none)

theorem length_placeCell (cells : List (Option Value)) (entry : Value × Option Nat) :
    (placeCell cells entry).length = cells.length := by
  obtain ⟨value, _ | i⟩ := entry <;> simp [placeCell]

theorem length_foldl_placeCell (entries : List (Value × Option Nat)) (cells : List (Option Value)) :
    (entries.foldl placeCell cells).length = cells.length := by
  induction entries generalizing cells with
  | nil => rfl
  | cons entry rest ih => rw [List.foldl_cons, ih, length_placeCell]

/-- There is one cell per field, whatever the result holds. -/
theorem length_placeCells (width : Nat) (positions : List (Option Nat)) (row : Row) :
    (placeCells width positions row).length = width := by
  rw [placeCells, length_foldl_placeCell, List.length_replicate]

/-- One element per row. -/
def elements {α : Type} (r : ResultSet) (t : Table) (type : EntityType α) : List α :=
  let positions := positions t r.labels
  r.rows.map fun row => type.ofCells (placeCells t.columns.length positions row)

/-! ## Maps -/

/-- A map from keys to values that keeps the order in which the keys came. -/
abbrev KeyedRow := List (String × Value)

/-- Puts a value under a key. A key that is there already keeps its place. -/
def insertKey (key : String) (value : Value) : KeyedRow → KeyedRow
  | [] => [(key, value)]
  | (k, v) :: rest =>
    if k = key then (k, value) :: rest else (k, v) :: insertKey key value rest

/-- The map of keys to the cells of a row. -/
def keyedRow (keys : List String) (row : Row) : KeyedRow :=
  (keys.zip row).foldl (fun entries (key, value) => insertKey key value entries) []

/-- One map per row, with the labels renamed by a pattern as keys. -/
def keyedRows (r : ResultSet) (pattern : NamingPattern) : List KeyedRow :=
  let keys := r.labels.map pattern.apply
  r.rows.map (keyedRow keys)

end ResultSet

end EntitySql
