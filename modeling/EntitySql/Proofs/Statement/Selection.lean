/-
  Statements that read every column of a table: what stands in front of their WHERE part is the same
  for all of them.
-/
import EntitySql.Proofs.Statement.Token
import EntitySql.Sql.Select

namespace EntitySql

/-- What a statement that reads every column says in front of WHERE. -/
def Table.selectStart (t : Table) : String :=
  "SELECT " ++ ", ".intercalate (t.columns.map Column.sql) ++ " FROM " ++ t.sql

namespace Query

variable {s : Settings} {t : Table}

/-- A query with a condition only reads every column. -/
theorem selectSql_whereOnly {c : Condition} {clause : Sql} (h : c.whereClause s t = .ok clause) :
    (whereOnly c).selectSql s t = .ok (.plain t.selectStart ++ clause) := by
  have statement : (whereOnly c).selectSql s t = .ok (.plain t.selectStart ++ clause ++ .plain "") := by
    rw [selectSql]
    simp only [whereOnly, h]
    rfl
  rw [statement]
  exact congrArg Except.ok (Sql.eq_of_parts (by simp) (by simp))

theorem selectSql_all : all.selectSql s t = .ok (.plain t.selectStart) := by
  have no_clause : (default : Condition).whereClause s t = .ok (.plain "") := rfl
  have statement := selectSql_whereOnly no_clause
  rw [show Sql.plain t.selectStart ++ Sql.plain "" = .plain t.selectStart from
    Sql.eq_of_parts (by simp) rfl] at statement
  exact statement

end Query

end EntitySql
