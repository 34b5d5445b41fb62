/-
  The statements of an insert, read back, are one record for each row.

  Rows go into statements in runs of rows with and without a key, in the pieces that a limit on
  parameters asks for, and either several to a statement or one text run several times. Nothing of
  this can be seen in the records (`ofWrites?_insert`): a record depends on its row alone.
-/
import EntitySql.Proofs.Insert.Record
import EntitySql.Sql.Change
import Mathlib.Data.List.SplitBy

namespace EntitySql

/-! ## Several writes -/

namespace Record

theorem ofWrites?_append {writes others : List Write} {records records' : List Record}
    (h : ofWrites? writes = some records) (h' : ofWrites? others = some records') :
    ofWrites? (writes ++ others) = some (records ++ records') := by
  rw [ofWrites?, Option.map_eq_some_iff] at h h' ⊢
  obtain ⟨found, hfound, rfl⟩ := h
  obtain ⟨found', hfound', rfl⟩ := h'
  refine ⟨found ++ found', ?_, List.flatten_append⟩
  rw [List.mapM_append, hfound, hfound']
  rfl

theorem ofWrites?_flatMap {α : Type} {f : α → List Write} {g : α → List Record} {xs : List α}
    (h : ∀ x ∈ xs, ofWrites? (f x) = some (g x)) :
    ofWrites? (xs.flatMap f) = some (xs.flatMap g) := by
  induction xs with
  | nil => rfl
  | cons x rest ih =>
    exact ofWrites?_append (h x List.mem_cons_self) (ih fun y hy => h y (List.mem_cons_of_mem x hy))

theorem ofWrites?_map {α : Type} {f : α → Write} {g : α → List Record} {xs : List α}
    (h : ∀ x ∈ xs, ofWrite? (f x) = some (g x)) :
    ofWrites? (xs.map f) = some (xs.flatMap g) := by
  rw [ofWrites?, List.mapM_map]
  exact map_flatten_mapM h

theorem ofWrites?_singleton {write : Write} {records : List Record}
    (h : ofWrite? write = some records) : ofWrites? [write] = some records := by
  rw [ofWrites?, List.mapM_cons, List.mapM_nil, h]
  simp

/-- One text with several lists of parameters is read like as many statements. -/
theorem ofWrite?_batch {α : Type} {text : String} {f : α → List Value} {g : α → Record} {xs : List α}
    (h : ∀ x ∈ xs, ofStatement? ⟨text, f x⟩ = some [g x]) :
    ofWrite? (.batch text (xs.map f)) = some (xs.map g) := by
  rw [ofWrite?, List.mapM_map, List.map_eq_flatMap]
  exact map_flatten_mapM h

end Record

namespace Insert

namespace Shape

/-- The record of a row. -/
def record (shape : Shape) (row : Row) : Record :=
  ⟨shape.table.sql, (shape.columns.map Column.sql).zip (shape.pick row)⟩

theorem length_pick (shape : Shape) {row : Row} (width : row.length = shape.table.columns.length) :
    (shape.pick row).length = shape.columns.length := by
  rw [columns, pick, pick]
  split
  · rw [List.length_eraseIdx, List.length_eraseIdx, width]
  · exact width

theorem mem_of_mem_pick {α : Type} {shape : Shape} {cells : List α} {a : α}
    (h : a ∈ shape.pick cells) : a ∈ cells := by
  rw [pick] at h
  split at h
  · exact List.mem_of_mem_eraseIdx h
  · exact h

/-! ## Statements -/

theorem text_tuple (shape : Shape) {row : Row} (width : row.length = shape.table.columns.length) :
    (Record.tuple (shape.pick row)).text = shape.tuple := by
  rw [tuple, ← shape.length_pick width, String.append_assoc]
  rfl

/-- A statement for several rows is its head with one tuple for each of them. -/
theorem rows_eq (shape : Shape) {rows : List Row}
    (width : ∀ row ∈ rows, row.length = shape.table.columns.length) :
    shape.rows rows = .plain shape.head ++ Record.tuples (rows.map shape.pick) := by
  have texts : ((rows.map shape.pick).map Record.tuple).map Sql.text =
      List.replicate rows.length shape.tuple := by
    rw [List.eq_replicate_iff]
    refine ⟨by simp only [List.length_map], fun text htext => ?_⟩
    rw [List.map_map, List.map_map, List.mem_map] at htext
    obtain ⟨row, hrow, rfl⟩ := htext
    exact shape.text_tuple (width row hrow)
  have params : ((rows.map shape.pick).map Record.tuple).flatMap Sql.params =
      rows.flatMap shape.pick := by
    rw [List.map_map, List.flatMap_map]
    refine congrArg (rows.flatMap ·) (funext fun row => ?_)
    simp [Record.tuple]
  refine Sql.eq_of_parts ?_ ?_
  · rw [Shape.rows, Sql.text_append, Sql.text_plain, Record.tuples, Sql.joined, texts]
  · rw [Shape.rows, Sql.params_append, Sql.params_plain, Record.tuples, Sql.joined, params,
      List.nil_append]

/-- A statement for one row is one for several rows. -/
theorem rows_singleton (shape : Shape) (row : Row) :
    shape.rows [row] = ⟨shape.head ++ shape.tuple, shape.pick row⟩ := by
  simp [rows]

/-- The rows of a statement are its tuples. -/
theorem tuples?_rows (shape : Shape) {rows : List Row} (some_row : rows ≠ [])
    (width : ∀ row ∈ rows, row.length = shape.table.columns.length) :
    (shape.rows rows).tuples? shape.head = some (rows.map shape.pick) := by
  rw [shape.rows_eq width]
  exact Sql.tuples?_tuples shape.head fun none => some_row (List.map_eq_nil_iff.1 none)

/-- One text that is run with the values of every row has the rows as its tuples. -/
theorem tuples?_batch (shape : Shape) {rows : List Row}
    (width : ∀ row ∈ rows, row.length = shape.table.columns.length) :
    (Write.batch (shape.head ++ shape.tuple) (rows.map shape.pick)).tuples? shape.head =
      some (rows.map shape.pick) := by
  rw [Write.tuples?, List.mapM_map, List.map_eq_flatMap]
  refine map_flatten_mapM fun row hrow => ?_
  have single := shape.tuples?_rows (List.cons_ne_nil row [])
    fun other hother => List.mem_singleton.1 hother ▸ width row hrow
  rwa [rows_singleton] at single

/-- What is written for a run is statements for stretches of it, or one text for all its rows. -/
theorem cases_of_mem_writes {shape : Shape} {d : Dialect} {multiRow : Bool} {run : List Row}
    {write : Write} (h : write ∈ shape.writes d multiRow run) :
    (∃ piece, piece <:+: run ∧ write = .single (shape.rows piece)) ∨
      write = .batch (shape.head ++ shape.tuple) (run.map shape.pick) := by
  unfold writes at h
  split at h
  · next row =>
    rw [List.mem_singleton, ← rows_singleton] at h
    exact .inl ⟨[row], List.infix_rfl, h⟩
  · split at h
    · obtain ⟨piece, hpiece, rfl⟩ := List.mem_map.1 h
      exact .inl ⟨piece, infix_of_mem_chunks (Nat.le_max_right _ 1) hpiece, rfl⟩
    · exact .inr (List.mem_singleton.1 h)

section Reading

variable {shape : Shape} (plain_table : IsPlain shape.table.sql)
  (plain_columns : ∀ column ∈ shape.table.columns, IsPlain column.sql)

include plain_table plain_columns

theorem ofStatement?_rows {rows : List Row} (some_row : rows ≠ [])
    (width : ∀ row ∈ rows, row.length = shape.table.columns.length) :
    Record.ofStatement? (shape.rows rows) = some (rows.map shape.record) := by
  have plain_names : ∀ name ∈ shape.columns.map Column.sql, IsPlain name := by
    intro name hname
    obtain ⟨column, hcolumn, rfl⟩ := List.mem_map.1 hname
    exact plain_columns column (mem_of_mem_pick hcolumn)
  have widths : ∀ values ∈ rows.map shape.pick,
      values.length = (shape.columns.map Column.sql).length := by
    intro values hvalues
    obtain ⟨row, hrow, rfl⟩ := List.mem_map.1 hvalues
    rw [List.length_map, shape.length_pick (width row hrow)]
  rw [shape.rows_eq width]
  refine (Record.ofStatement?_head_tuples plain_table plain_names
    (fun h => some_row (List.map_eq_nil_iff.1 h)) widths).trans ?_
  rw [List.map_map]
  rfl

theorem ofStatement?_row {row : Row} (width : row.length = shape.table.columns.length) :
    Record.ofStatement? ⟨shape.head ++ shape.tuple, shape.pick row⟩ = some [shape.record row] := by
  rw [← rows_singleton]
  exact ofStatement?_rows plain_table plain_columns (List.cons_ne_nil _ _)
    fun other hother => List.mem_singleton.1 hother ▸ width

/-- However a run of rows is written, the records of its rows are read. -/
theorem ofWrites?_writes (d : Dialect) (multiRow : Bool) {run : List Row} (some_row : run ≠ [])
    (width : ∀ row ∈ run, row.length = shape.table.columns.length) :
    Record.ofWrites? (shape.writes d multiRow run) = some (run.map shape.record) := by
  have single (row : Row) (hrow : row ∈ run) :
      Record.ofStatement? ⟨shape.head ++ shape.tuple, shape.pick row⟩ = some [shape.record row] :=
    ofStatement?_row plain_table plain_columns (width row hrow)
  unfold writes
  split
  · next row => exact Record.ofWrites?_singleton (single row (List.mem_singleton_self row))
  · split
    · have hsize : 0 < shape.rowsPerStatement d := Nat.le_max_right _ 1
      have hall : (chunks (shape.rowsPerStatement d) run).flatten = run := flatten_chunks hsize
      have pieces : ∀ piece ∈ chunks (shape.rowsPerStatement d) run,
          Record.ofWrite? (.single (shape.rows piece)) = some (piece.map shape.record) := by
        intro piece hpiece
        exact ofStatement?_rows plain_table plain_columns (ne_nil_of_mem_chunks hsize hpiece)
          fun row hrow => width row ((infix_of_mem_chunks hsize hpiece).mem hrow)
      rw [Record.ofWrites?_map pieces, List.flatMap_def, ← List.map_flatten, hall]
    · exact Record.ofWrites?_singleton (Record.ofWrite?_batch single)

end Reading

end Shape

/-! ## Runs -/

theorem flatten_runs (t : Table) (rows : List Row) : (runs t rows).flatten = rows :=
  List.flatten_splitBy _ rows

theorem mem_of_mem_runs {t : Table} {rows run : List Row} (hrun : run ∈ runs t rows) {row : Row}
    (hrow : row ∈ run) : row ∈ rows := by
  rw [← flatten_runs t rows]
  exact List.mem_flatten_of_mem hrun hrow

/-- Whether the key is left out is the same question for a run and for any of its rows. -/
theorem leavesKey_eq {t : Table} {rows run : List Row} (hrun : run ∈ runs t rows) {row : Row}
    (hrow : row ∈ run) : leavesKey t run = (t.keyValue row).isNull := by
  have chain := List.isChain_of_mem_splitBy hrun
  simp only [beq_iff_eq] at chain
  cases run with
  | nil => exact absurd hrow List.not_mem_nil
  | cons first rest =>
    rw [leavesKey, List.head?_cons, Option.any_some]
    rcases List.mem_cons.1 hrow with rfl | hrow
    · rfl
    · have trans : Trans (fun a b : Row => (t.keyValue a).isNull = (t.keyValue b).isNull)
          (fun a b => (t.keyValue a).isNull = (t.keyValue b).isNull)
          fun a b => (t.keyValue a).isNull = (t.keyValue b).isNull := ⟨Eq.trans⟩
      exact (List.pairwise_cons.1 chain.pairwise).1 row hrow

/-- The shape leaves the key out where these rows leave it to the database. -/
def Shape.Suits (shape : Shape) (rows : List Row) : Prop :=
  ∀ row ∈ rows, shape.withoutKey = (shape.table.key.generated && (shape.table.keyValue row).isNull)

theorem suits_of_mem_runs {t : Table} (generated : t.key.generated) {rows run : List Row}
    (hrun : run ∈ runs t rows) : (⟨t, leavesKey t run⟩ : Shape).Suits run := by
  intro row hrow
  rw [leavesKey_eq hrun hrow, generated, Bool.true_and]

theorem suits_of_not_generated {t : Table} (kept : ¬t.key.generated) (rows : List Row) :
    (⟨t, false⟩ : Shape).Suits rows := by
  intro row _
  rw [Bool.eq_false_iff.2 kept, Bool.false_and]

/-- Of rows that have a shape, all leave the key to the database or none does. -/
theorem Shape.Suits.withoutKey_iff {shape : Shape} {rows : List Row} (suits : shape.Suits rows)
    (some_row : rows ≠ []) : shape.withoutKey ↔
      shape.table.key.generated ∧ ∀ row ∈ rows, (shape.table.keyValue row).isNull := by
  constructor
  · intro without
    have each : ∀ row ∈ rows, shape.table.key.generated ∧ (shape.table.keyValue row).isNull :=
      fun row hrow => Bool.and_eq_true_iff.1 ((suits row hrow).symm.trans without)
    obtain ⟨row, hrow⟩ := List.exists_mem_of_ne_nil rows some_row
    exact ⟨(each row hrow).1, fun other hother => (each other hother).2⟩
  · rintro ⟨generated, null⟩
    obtain ⟨row, hrow⟩ := List.exists_mem_of_ne_nil rows some_row
    exact (suits row hrow).trans (Bool.and_eq_true_iff.2 ⟨generated, null row hrow⟩)

/-! ## Inserts -/

/-- The record of a row in whatever run it stands. -/
def recordOf (t : Table) (row : Row) : Record :=
  (⟨t, t.key.generated && (t.keyValue row).isNull⟩ : Shape).record row

theorem Shape.Suits.map_record {shape : Shape} {rows : List Row} (suits : shape.Suits rows) :
    rows.map shape.record = rows.map (recordOf shape.table) := by
  refine List.map_congr_left fun row hrow => ?_
  rw [recordOf, ← suits row hrow]

/-- Rows are refused only if there are none or one of them has a wrong number of values. -/
theorem writes_eq_ok (s : Settings) (t : Table) (multiRow : Bool) {rows : List Row}
    (some_row : rows ≠ []) (width : ∀ row ∈ rows, row.length = t.columns.length) :
    writes s t multiRow rows = .ok (
      if t.key.generated then
        (runs t rows).flatMap fun run => Shape.writes s.dialect multiRow ⟨t, leavesKey t run⟩ run
      else Shape.writes s.dialect multiRow ⟨t, false⟩ rows) := by
  have checked : rows.forM t.checkWidth = .ok ⟨⟩ :=
    forM_eq_ok_iff.2 fun row hrow => Table.checkWidth_eq_ok_iff.2 (width row hrow)
  rw [writes, if_neg (by rwa [List.isEmpty_iff]), checked]
  cases t.key.generated <;> rfl

/-- Whatever is written consists of rows that have the right number of values. -/
theorem width_of_writes {s : Settings} {t : Table} {multiRow : Bool} {rows : List Row}
    {found : List Write} (h : writes s t multiRow rows = .ok found) :
    rows ≠ [] ∧ ∀ row ∈ rows, row.length = t.columns.length := by
  rw [writes] at h
  split at h
  · cases h
  · next some_row =>
    obtain ⟨⟨⟩, checked, -⟩ := bind_eq_ok_iff.1 h
    exact ⟨fun hnil => some_row (List.isEmpty_iff.2 hnil), fun row hrow =>
      Table.checkWidth_eq_ok_iff.1 (forM_eq_ok_iff.1 checked row hrow)⟩

/-- The statements of an insert are read as one record for each row, in order. -/
theorem ofWrites?_insert (s : Settings) (t : Table) (multiRow : Bool) {rows : List Row}
    (some_row : rows ≠ []) (width : ∀ row ∈ rows, row.length = t.columns.length)
    (plain_table : IsPlain t.sql) (plain_columns : ∀ column ∈ t.columns, IsPlain column.sql) :
    ∃ found, writes s t multiRow rows = .ok found ∧
      Record.ofWrites? found = some (rows.map (recordOf t)) := by
  refine ⟨_, writes_eq_ok s t multiRow some_row width, ?_⟩
  split
  · next generated =>
    have each : ∀ run ∈ runs t rows,
        Record.ofWrites? (Shape.writes s.dialect multiRow ⟨t, leavesKey t run⟩ run) =
          some (run.map (recordOf t)) := by
      intro run hrun
      rw [← (suits_of_mem_runs generated hrun).map_record]
      exact Shape.ofWrites?_writes plain_table plain_columns s.dialect multiRow
        (List.ne_nil_of_mem_splitBy hrun) fun row hrow => width row (mem_of_mem_runs hrun hrow)
    rw [Record.ofWrites?_flatMap each, List.flatMap_def, ← List.map_flatten, flatten_runs]
  · next kept =>
    rw [← (suits_of_not_generated kept rows).map_record]
    exact Shape.ofWrites?_writes plain_table plain_columns s.dialect multiRow some_row width

end Insert

end EntitySql
