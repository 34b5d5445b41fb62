/-
  Inserts into a known table, without its name.

  The reader of inserts takes the table to end at the first parenthesis. Who knows the table can take
  any name off the text before it is read. What is left is the insert into a table without a name
  (`Insert.dropTable?_writes`), so that the records of its rows are read (`Insert.read_insert`).
-/
import EntitySql.Proofs.Insert.Rows

namespace EntitySql

namespace Insert

/-! ## Taking the name off -/

/-- The text of an insert into a table, without the name of the table. -/
def dropTable? (table text : String) : Option String :=
  (("INSERT INTO " ++ table ++ " (").toList.isPrefixOf? text.toList).map fun rest =>
    "INSERT INTO " ++ "" ++ " (" ++ String.ofList rest

/-- The insert that a write is, without the name of the table. -/
def unnamed? (table : String) : Write → Option Write
  | .single statement => (dropTable? table statement.text).map fun text =>
    .single ⟨text, statement.params⟩
  | .batch text paramSets => (dropTable? table text).map fun text => .batch text paramSets

/-- The records that a write stores in a table that is known. They do not name it. -/
def read? (table : String) (write : Write) : Option (List Record) :=
  (unnamed? table write).bind Record.ofWrite?

end Insert

/-- The table without its name. -/
def Table.unnamed (t : Table) : Table := { t with sql := "" }

namespace Insert

namespace Shape

def unnamed (shape : Shape) : Shape := { shape with table := shape.table.unnamed }

theorem dropTable?_head (shape : Shape) (rest : String) :
    dropTable? shape.table.sql (shape.head ++ rest) = some (shape.unnamed.head ++ rest) := by
  have text : shape.head ++ rest = ("INSERT INTO " ++ shape.table.sql ++ " (") ++
      (", ".intercalate (shape.columns.map Column.sql) ++ ") VALUES " ++ rest) := by
    unfold head
    simp only [String.append_assoc]
  have unnamed_text : shape.unnamed.head ++ rest = ("INSERT INTO " ++ "" ++ " (") ++
      (", ".intercalate (shape.columns.map Column.sql) ++ ") VALUES " ++ rest) := by
    show ("INSERT INTO " ++ "" ++ " (" ++ ", ".intercalate (shape.columns.map Column.sql) ++
      ") VALUES ") ++ rest = _
    simp only [String.append_assoc]
  rw [dropTable?, text, isPrefixOf?_toList_append, Option.map_some, String.ofList_toList, unnamed_text]

/-- Without the name, what is written for a run is what is written for it into the table without a
name. -/
theorem unnamed?_writes (d : Dialect) (multiRow : Bool) (shape : Shape) (run : List Row) :
    (shape.writes d multiRow run).map (unnamed? shape.table.sql) =
      (shape.unnamed.writes d multiRow run).map some := by
  have single : ∀ piece,
      unnamed? shape.table.sql (.single (shape.rows piece)) = some (.single (shape.unnamed.rows piece)) := by
    intro piece
    rw [unnamed?, rows, dropTable?_head]
    rfl
  have batch : ∀ paramSets, unnamed? shape.table.sql (.batch (shape.head ++ shape.tuple) paramSets) =
      some (.batch (shape.unnamed.head ++ shape.unnamed.tuple) paramSets) := by
    intro paramSets
    rw [unnamed?, dropTable?_head]
    rfl
  unfold writes
  split
  · next row =>
    have one := single [row]
    rw [rows_singleton, rows_singleton] at one
    rw [List.map_singleton, one]
    rfl
  · next several =>
    split
    · rw [List.map_map, List.map_map]
      exact List.map_congr_left fun piece _ => single piece
    · rw [List.map_singleton, batch]
      rfl

end Shape

variable (s : Settings) (t : Table) (multiRow : Bool) {rows : List Row}

theorem unnamed?_insert (some_row : rows ≠ [])
    (width : ∀ row ∈ rows, row.length = t.columns.length) :
    ∃ found found', writes s t multiRow rows = .ok found ∧
      writes s t.unnamed multiRow rows = .ok found' ∧
      found.map (unnamed? t.sql) = found'.map some := by
  refine ⟨_, _, writes_eq_ok s t multiRow some_row width,
    writes_eq_ok s t.unnamed multiRow some_row width, ?_⟩
  show _ = (if t.key.generated then
    (runs t rows).flatMap fun run => Shape.writes s.dialect multiRow ⟨t.unnamed, leavesKey t run⟩ run
      else Shape.writes s.dialect multiRow ⟨t.unnamed, false⟩ rows).map some
  split
  · rw [List.map_flatMap, List.map_flatMap]
    exact congrArg (List.flatMap · (runs t rows)) (funext fun run =>
      Shape.unnamed?_writes s.dialect multiRow ⟨t, leavesKey t run⟩ run)
  · exact Shape.unnamed?_writes s.dialect multiRow ⟨t, false⟩ rows

/-- The statements of an insert are read as one record for each row, whatever the table is called. -/
theorem mapM_read?_insert (some_row : rows ≠ [])
    (width : ∀ row ∈ rows, row.length = t.columns.length)
    (plain_columns : ∀ column ∈ t.columns, IsPlain column.sql) :
    ∃ found news, writes s t multiRow rows = .ok found ∧ found.mapM (read? t.sql) = some news ∧
      news.flatten = rows.map (recordOf t.unnamed) := by
  obtain ⟨found, found', written, written', same⟩ := unnamed?_insert s t multiRow some_row width
  have plain_table : IsPlain t.unnamed.sql := show IsPlain "" by decide
  obtain ⟨others, hothers, records⟩ :=
    ofWrites?_insert s t.unnamed multiRow some_row width plain_table plain_columns
  cases written'.symm.trans hothers
  obtain ⟨news, hnews, flat⟩ := Option.map_eq_some_iff.1 records
  refine ⟨found, news, written, ?_, flat⟩
  have bound : found.mapM (read? t.sql) =
      (found.map (unnamed? t.sql)).mapM fun write? => write?.bind Record.ofWrite? := by
    rw [List.mapM_map]
    rfl
  rw [bound, same, List.mapM_map]
  exact hnews

end Insert

end EntitySql
