/-
  What holds of the table of an entity because its declaration is valid.

  There is a table for valid declarations only (`Settings.area_of_table_eq_error`). It has one column
  for each field, no two of them for the same field name (`Settings.distinct_of_table`), so that the
  name of a field leads to its own column, and that of the key to the key.
-/
import EntitySql.Entity.Table
import EntitySql.Proofs.Outcome
import Mathlib.Data.List.Nodup

namespace EntitySql

/-! ## Refusals -/

theorem EntityDecl.area_of_keyIndex_eq_error {d : EntityDecl} {e : Error}
    (h : d.keyIndex = .error e) : e.area = .invalidMetadata := by
  unfold keyIndex at h
  split at h
  · cases h
    rfl
  · cases h
  · cases h
    rfl

theorem EntityDecl.area_of_validate_eq_error {d : EntityDecl} {e : Error}
    (h : d.validate = .error e) : e.area = .invalidMetadata := by
  rw [validate] at h
  split at h
  · cases h
    rfl
  · rcases bind_eq_error_iff.1 h with h | ⟨_, -, h⟩
    · exact area_of_keyIndex_eq_error h
    · split at h
      · cases h
        rfl
      · exact absurd h pure_ne_error

/-- Only an invalid declaration has no table. -/
theorem Settings.area_of_table_eq_error {s : Settings} {d : EntityDecl} {e : Error}
    (h : s.table d = .error e) : e.area = .invalidMetadata := by
  rcases bind_eq_error_iff.1 h with h | ⟨_, -, h⟩
  · exact EntityDecl.area_of_validate_eq_error h
  · rcases bind_eq_error_iff.1 h with h | ⟨_, -, h⟩
    · exact EntityDecl.area_of_keyIndex_eq_error h
    · exact absurd h pure_ne_error

/-! ## Columns -/

theorem EntityDecl.distinct_of_validate {d : EntityDecl} (h : d.validate = .ok ⟨⟩) :
    (d.fields.map FieldDecl.name).Nodup := by
  rw [validate] at h
  split at h
  · cases h
  · obtain ⟨_, -, h⟩ := bind_eq_ok_iff.1 h
    split at h
    · cases h
    · next fresh => exact (firstRepeated?_eq_none_iff.1 fresh).1

theorem Settings.table_eq_ok {s : Settings} {d : EntityDecl} {t : Table} (h : s.table d = .ok t) :
    d.validate = .ok ⟨⟩ ∧ t.columns = d.fields.map s.column := by
  obtain ⟨⟨⟩, valid, h⟩ := bind_eq_ok_iff.1 h
  obtain ⟨key, -, h⟩ := bind_eq_ok_iff.1 h
  cases h
  exact ⟨valid, rfl⟩

theorem Settings.length_of_table {s : Settings} {d : EntityDecl} {t : Table}
    (h : s.table d = .ok t) : t.columns.length = d.fields.length := by
  rw [(table_eq_ok h).2, List.length_map]

/-- The columns of a table belong to different fields. -/
theorem Settings.distinct_of_table {s : Settings} {d : EntityDecl} {t : Table}
    (h : s.table d = .ok t) : (t.columns.map Column.field).Nodup := by
  obtain ⟨valid, columns⟩ := table_eq_ok h
  rw [columns, List.map_map]
  exact EntityDecl.distinct_of_validate valid

/-- An element is found by what distinguishes it from the others. -/
theorem find?_eq_of_nodup {α β : Type} [DecidableEq β] {f : α → β} {xs : List α}
    (distinct : (xs.map f).Nodup) {x : α} (hx : x ∈ xs) :
    xs.find? (fun y => decide (f y = f x)) = some x := by
  cases h : xs.find? fun y => decide (f y = f x) with
  | none => exact absurd (decide_eq_true rfl) (List.find?_eq_none.1 h x hx)
  | some y =>
    have same : f y = f x := by simpa using List.find?_some h
    rw [List.inj_on_of_nodup_map distinct (List.mem_of_find?_eq_some h) hx same]

/-- The name of the key's field leads to the key. -/
theorem Table.field_key {t : Table} (distinct : (t.columns.map Column.field).Nodup) :
    t.field t.key.field = .ok t.key := by
  have found := find?_eq_of_nodup distinct (show t.key ∈ t.columns from List.get_mem _ _)
  rw [field, found]

end EntitySql
