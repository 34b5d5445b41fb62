/-
  Where the cells of a result go when it has one column for each field.

  A label that names a column, in any case, leads to the field of that column, provided that no other
  column has this name (`Table.position?_of_lower`). If the labels are the names of the columns in
  order, every cell of a row comes to stand at its own place (`ResultSet.elements_names`).
-/
import EntitySql.Result.Mapping
import Mathlib.Data.List.Nodup

namespace EntitySql

namespace Table

/-! ## Labels -/

/-- The last element with a property is the only one. -/
theorem lastIndex?_eq_some {α : Type} {p : α → Bool} {xs : List α} {i : Nat} (h : i < xs.length)
    (has : p xs[i]) (only : ∀ (j : Nat) (hj : j < xs.length), p xs[j] → j = i) :
    lastIndex? p xs = some i := by
  have back : xs.reverse.findIdx? p = some (xs.length - 1 - i) := by
    rw [List.findIdx?_eq_some_iff_getElem]
    refine ⟨by rw [List.length_reverse]; omega, ?_, fun j hj found => ?_⟩
    · rw [List.getElem_reverse]
      have same : xs.length - 1 - (xs.length - 1 - i) = i := by omega
      simpa only [same] using has
    · rw [List.getElem_reverse] at found
      have := only _ (by omega) found
      omega
  rw [lastIndex?, back, Option.map_some]
  congr 1
  omega

/-- A label that is the name of a column, whatever the case, means the field of this column. -/
theorem position?_of_lower {t : Table}
    (distinct : (t.columns.map fun c => Text.lower c.name).Nodup) {i : Nat} (h : i < t.columns.length)
    {label : String} (same : Text.lower label = Text.lower t.columns[i].name) :
    t.position? label = some i := by
  have found : lastIndex? (fun c => decide (Text.lower c.name = Text.lower label)) t.columns =
      some i := by
    refine lastIndex?_eq_some h (decide_eq_true same.symm) fun j hj hlabel => ?_
    have hi : i < (t.columns.map fun c => Text.lower c.name).length := by rwa [List.length_map]
    have hj : j < (t.columns.map fun c => Text.lower c.name).length := by rwa [List.length_map]
    have names : (t.columns.map fun c => Text.lower c.name)[j] =
        (t.columns.map fun c => Text.lower c.name)[i] := by
      rw [List.getElem_map, List.getElem_map]
      exact (of_decide_eq_true hlabel).trans same
    exact distinct.getElem_inj_iff.1 names
  unfold position?
  simp only [found]
  rfl

end Table

namespace ResultSet

theorem positions_names {t : Table} (distinct : (t.columns.map fun c => Text.lower c.name).Nodup) :
    positions t (t.columns.map Column.name) = (List.range t.columns.length).map some := by
  refine List.ext_getElem (by simp [positions]) fun i h _ => ?_
  have hi : i < t.columns.length := by simpa [positions] using h
  simp only [positions, List.getElem_map, List.getElem_range]
  exact Table.position?_of_lower distinct hi rfl

/-! ## Cells -/

/-- Cells for the places behind those that are filled fill the next ones. -/
theorem foldl_placeCell_range' (filled row : Row) :
    (row.zip ((List.range' filled.length row.length).map some)).foldl placeCell
      (filled.map some ++ List.replicate row.length none) = (filled ++ row).map some := by
  induction row generalizing filled with
  | nil => simp
  | cons value rest ih =>
    have next : placeCell (filled.map some ++ List.replicate (rest.length + 1) none)
        (value, some filled.length) =
          (filled ++ [value]).map some ++ List.replicate rest.length none := by
      simp [placeCell, List.replicate_succ]
    have further := ih (filled ++ [value])
    rw [List.length_append, List.length_singleton] at further
    rw [List.length_cons, List.range'_succ, List.map_cons, List.zip_cons_cons, List.foldl_cons, next,
      further, List.append_assoc, List.singleton_append]

/-- A row with a cell for each field in order is taken as it is. -/
theorem placeCells_range {width : Nat} {row : Row} (h : row.length = width) :
    placeCells width ((List.range width).map some) row = row.map some := by
  subst h
  have all := foldl_placeCell_range' [] row
  rw [List.length_nil, ← List.range_eq_range'] at all
  exact all

theorem elements_names {α : Type} {t : Table}
    (distinct : (t.columns.map fun c => Text.lower c.name).Nodup) (type : EntityType α)
    {rows : List Row} (width : ∀ row ∈ rows, row.length = t.columns.length) :
    (⟨t.columns.map Column.name, rows⟩ : ResultSet).elements t type =
      rows.map fun row => type.ofCells (row.map some) := by
  unfold elements
  rw [positions_names distinct]
  refine List.map_congr_left fun row hrow => ?_
  rw [placeCells_range (width row hrow)]

end ResultSet

end EntitySql
