/-
  Inserts store every row once, in order, whatever the strategy.

  A record stores a row if it has the values of the row under the names of their columns, where only
  a generated key that is NULL is left out. Both ways to insert several rows write the same records,
  and these store the rows one by one (`insert_keeps_rows`), so that NULL is never bound to a
  generated key.
-/
import EntitySql.Proofs.Insert.Rows
import EntitySql.Proofs.Sample
import Mathlib.Data.List.InsertIdx
import Mathlib.Data.List.Nodup

namespace EntitySql

namespace Insert

/-- The record has the values of the row, but nothing for a generated key that is NULL. -/
structure Stores (t : Table) (row : Row) (record : Record) : Prop where
  table : record.table = t.sql
  distinct : (record.cells.map Prod.fst).Nodup
  columns : ∀ name ∈ record.cells.map Prod.fst, name ∈ t.columns.map Column.sql
  value : ∀ (i : Nat) (h : i < t.columns.length),
    record.value? t.columns[i].sql =
      if i = t.keyIndex ∧ t.key.generated ∧ (t.keyValue row).isNull then none else row[i]?

theorem zip_eraseIdx {α β : Type} (xs : List α) (ys : List β) (k : Nat) :
    (xs.eraseIdx k).zip (ys.eraseIdx k) = (xs.zip ys).eraseIdx k := by
  induction xs generalizing ys k with
  | nil => rfl
  | cons x xs ih =>
    cases ys with
    | nil => simp
    | cons y ys =>
      cases k with
      | zero => rfl
      | succ k =>
        rw [List.eraseIdx_cons_succ, List.eraseIdx_cons_succ, List.zip_cons_cons, ih,
          List.zip_cons_cons, List.eraseIdx_cons_succ]

theorem Shape.columns_map (shape : Shape) :
    shape.columns.map Column.sql = shape.pick (shape.table.columns.map Column.sql) := by
  rw [columns, pick, pick]
  split
  · rw [List.eraseIdx_map]
  · rfl

/-- The cells of a record are those of the row that are not left out. -/
theorem Shape.cells_record (shape : Shape) (row : Row) :
    (shape.record row).cells = shape.pick ((shape.table.columns.map Column.sql).zip row) := by
  rw [record, columns_map, pick, pick, pick]
  split
  · exact zip_eraseIdx _ _ _
  · rfl

theorem Shape.names_record (shape : Shape) {row : Row}
    (width : row.length = shape.table.columns.length) :
    (shape.record row).cells.map Prod.fst = shape.pick (shape.table.columns.map Column.sql) := by
  rw [record, List.map_fst_zip (by rw [List.length_map, shape.length_pick width]), columns_map]

theorem Shape.mem_cells_record {shape : Shape} {row : Row} {i : Nat}
    (width : row.length = shape.table.columns.length) (h : i < shape.table.columns.length)
    (kept : ¬ (shape.withoutKey ∧ i = shape.table.keyIndex)) :
    ((shape.table.columns[i].sql, row[i]) : String × Value) ∈ (shape.record row).cells := by
  have cell : ((shape.table.columns.map Column.sql).zip row)[i]? =
      some (shape.table.columns[i].sql, row[i]) := by
    rw [List.getElem?_zip_eq_some]
    exact ⟨by rw [List.getElem?_map, List.getElem?_eq_getElem h, Option.map_some],
      List.getElem?_eq_getElem (width ▸ h)⟩
  rw [cells_record, pick]
  split
  · next hkey =>
    exact List.mem_eraseIdx_iff_getElem?.2 ⟨i, fun hi => kept ⟨hkey, hi⟩, cell⟩
  · exact List.mem_of_getElem? cell

theorem Shape.key_not_mem_record {shape : Shape} {row : Row}
    (width : row.length = shape.table.columns.length)
    (distinct : (shape.table.columns.map Column.sql).Nodup) (hkey : shape.withoutKey) :
    shape.table.key.sql ∉ (shape.record row).cells.map Prod.fst := by
  rw [shape.names_record width, pick, if_pos hkey, List.mem_eraseIdx_iff_getElem]
  rintro ⟨i, hi, hne, heq⟩
  have hlt : shape.table.keyIndex < (shape.table.columns.map Column.sql).length := by
    rw [List.length_map]
    exact shape.table.keyIndex_lt
  have hkey : (shape.table.columns.map Column.sql)[shape.table.keyIndex] = shape.table.key.sql := by
    rw [List.getElem_map]
    rfl
  exact hne ((distinct.getElem_inj_iff).1 (heq.trans hkey.symm))

theorem stores_recordOf {t : Table} (distinct : (t.columns.map Column.sql).Nodup) {row : Row}
    (width : row.length = t.columns.length) : Stores t row (recordOf t row) := by
  have names := Shape.names_record ⟨t, t.key.generated && (t.keyValue row).isNull⟩ width
  have nodup : ((recordOf t row).cells.map Prod.fst).Nodup := by
    rw [recordOf, names, Shape.pick]
    split
    · exact distinct.eraseIdx _
    · exact distinct
  refine ⟨rfl, nodup, fun name hname => ?_, fun i h => ?_⟩
  · rw [recordOf, names] at hname
    exact Shape.mem_of_mem_pick hname
  · split
    · next left =>
      obtain ⟨rfl, hgenerated, hnull⟩ := left
      refine Record.value?_eq_none_iff.2 (Shape.key_not_mem_record width distinct ?_)
      rw [hgenerated, hnull]
      rfl
    · next kept =>
      rw [List.getElem?_eq_getElem (width ▸ h)]
      refine Record.value?_of_mem nodup (Shape.mem_cells_record width h fun left => kept ?_)
      exact ⟨left.2, Bool.and_eq_true_iff.1 left.1⟩

/-- A generated key is never NULL where it is written. -/
theorem Stores.key_ne_null {t : Table} {row : Row} {record : Record} (h : Stores t row record)
    (generated : t.key.generated) : record.value? t.key.sql ≠ some .null := by
  have value : record.value? t.key.sql = _ := h.value t.keyIndex t.keyIndex_lt
  rw [value]
  split
  · intro hnull
    cases hnull
  · next kept =>
    intro hnull
    refine kept ⟨rfl, generated, ?_⟩
    rw [Table.keyValue, hnull]
    rfl

/-- Rows are read back from the statements that insert them, one record for each row in order, and
these are the same records for both strategies. -/
theorem insert_keeps_rows (s : Settings) (t : Table) (rows : List Row) (some_row : rows ≠ [])
    (width : ∀ row ∈ rows, row.length = t.columns.length) (plain_table : IsPlain t.sql)
    (plain_columns : ∀ column ∈ t.columns, IsPlain column.sql)
    (distinct : (t.columns.map Column.sql).Nodup) :
    ∃ records,
      (∀ multiRow, ∃ found, (Mutation.insert rows).writes s t multiRow = .ok found ∧
        Record.ofWrites? found = some records) ∧
      List.Forall₂ (Stores t) rows records ∧
      (t.key.generated → ∀ record ∈ records, record.value? t.key.sql ≠ some .null) := by
  have stored : ∀ row ∈ rows, Stores t row (recordOf t row) := fun row hrow =>
    stores_recordOf distinct (width row hrow)
  refine ⟨rows.map (recordOf t), fun multiRow => ?_, ?_, fun generated record hrecord => ?_⟩
  · exact ofWrites?_insert s t multiRow some_row width plain_table plain_columns
  · rw [List.forall₂_map_right_iff, List.forall₂_same]
    exact stored
  · obtain ⟨row, hrow, rfl⟩ := List.mem_map.1 hrecord
    exact (stored row hrow).key_ne_null generated

theorem insert_keeps_rows_with_and_without_key :
    Sample.rows ≠ [] ∧ (∀ row ∈ Sample.rows, row.length = Sample.items.columns.length) ∧
      IsPlain Sample.items.sql ∧ (∀ column ∈ Sample.items.columns, IsPlain column.sql) ∧
      (Sample.items.columns.map Column.sql).Nodup ∧
      ∃ records,
        (∀ multiRow, ∃ found,
          (Mutation.insert Sample.rows).writes Sample.settings Sample.items multiRow = .ok found ∧
            Record.ofWrites? found = some records) ∧
        List.Forall₂ (Stores Sample.items) Sample.rows records ∧
        (Sample.items.key.generated →
          ∀ record ∈ records, record.value? Sample.items.key.sql ≠ some .null) := by
  have some_row : Sample.rows ≠ [] := List.cons_ne_nil _ _
  have width : ∀ row ∈ Sample.rows, row.length = Sample.items.columns.length := by decide
  have plain_table : IsPlain Sample.items.sql := by decide
  have plain_columns : ∀ column ∈ Sample.items.columns, IsPlain column.sql := by decide
  have distinct : (Sample.items.columns.map Column.sql).Nodup := by decide
  exact ⟨some_row, width, plain_table, plain_columns, distinct,
    insert_keeps_rows Sample.settings Sample.items Sample.rows some_row width plain_table
      plain_columns distinct⟩

end Insert

end EntitySql
