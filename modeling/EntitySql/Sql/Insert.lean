/-
  Inserts: rows written by as few statements as the limits of the database allow.
-/
import EntitySql.Query.Mutation
import EntitySql.Sql.Chunks
import EntitySql.Entity.Table

namespace EntitySql

/-- A row must have one value per column. -/
def Table.checkWidth (t : Table) (row : Row) : Except Error Unit :=
  if row.length = t.columns.length then .ok ()
  else .error (.rowWidth t.entity t.columns.length row.length)

theorem Table.checkWidth_eq_ok_iff {t : Table} {row : Row} :
    t.checkWidth row = .ok ⟨⟩ ↔ row.length = t.columns.length := by
  rw [checkWidth]
  split
  · next width => exact ⟨fun _ => width, fun _ => rfl⟩
  · next width => exact ⟨nofun, fun h => absurd h width⟩

/-- The value of a row's primary key. -/
def Table.keyValue (t : Table) (row : Row) : Value := row[t.keyIndex]?.getD .null

namespace Insert

/-- How a run of rows is inserted. `withoutKey` leaves the primary key to the database. -/
structure Shape where
  table : Table
  withoutKey : Bool

namespace Shape

/-- What belongs to the columns named by the insert. -/
def pick {α : Type} (shape : Shape) (cells : List α) : List α :=
  if shape.withoutKey then cells.eraseIdx shape.table.keyIndex else cells

def columns (shape : Shape) : List Column := shape.pick shape.table.columns

/-- The placeholders of one row. -/
def tuple (shape : Shape) : String := "(" ++ placeholders shape.columns.length ++ ")"

/-- The statement up to the rows. -/
def head (shape : Shape) : String :=
  "INSERT INTO " ++ shape.table.sql ++ " (" ++ ", ".intercalate (shape.columns.map Column.sql) ++
    ") VALUES "

/-- One statement for several rows. -/
def rows (shape : Shape) (rows : List Row) : Sql :=
  ⟨shape.head ++ ", ".intercalate (List.replicate rows.length shape.tuple),
    rows.flatMap shape.pick⟩

/-- How many rows a statement can take without having too many parameters. -/
def rowsPerStatement (d : Dialect) (shape : Shape) : Nat :=
  max (d.maxParams / max shape.columns.length 1) 1

/-- The statements that insert a run of rows. Several rows share a statement where the database
and the session (`multiRow`) allow it; otherwise one text is run for each of them. -/
def writes (d : Dialect) (multiRow : Bool) (shape : Shape) (run : List Row) : List Write :=
  match run with
  | [row] => [.single ⟨shape.head ++ shape.tuple, shape.pick row⟩]
  | run =>
    if multiRow && d.multiRow then
      (chunks (shape.rowsPerStatement d) run).map fun piece => .single (shape.rows piece)
    else [.batch (shape.head ++ shape.tuple) (run.map shape.pick)]

end Shape

/-- The rows in runs of neighbours that agree in whether their key is NULL. -/
def runs (t : Table) (rows : List Row) : List (List Row) :=
  rows.splitBy fun a b => (t.keyValue a).isNull == (t.keyValue b).isNull

/-- A run's key is left to the database if it is NULL in its rows. -/
def leavesKey (t : Table) (run : List Row) : Bool :=
  run.head?.any fun row => (t.keyValue row).isNull

/-- The statements that insert rows. A generated key is bound only where it is known, so rows with
and without one go into statements of their own. -/
def writes (s : Settings) (t : Table) (multiRow : Bool) (rows : List Row) :
    Except Error (List Write) := do
  if rows.isEmpty then throw (.noRows t.sql)
  rows.forM t.checkWidth
  if t.key.generated then
    return (runs t rows).flatMap fun run =>
      Shape.writes s.dialect multiRow ⟨t, leavesKey t run⟩ run
  else return Shape.writes s.dialect multiRow ⟨t, false⟩ rows

end Insert

end EntitySql
