/-
  Mutations: rows to insert, to change or to delete.
-/
import EntitySql.Error
import EntitySql.Query.Condition

namespace EntitySql

/-- The rows that a change or a deletion is about. -/
inductive Target where
  /-- The row with a primary key. -/
  | key (value : Value)
  /-- The rows with one of several primary keys. -/
  | keys (values : List Value)
  | matching (condition : Condition)

/-- A write. Rows hold one value per field. -/
inductive Mutation where
  | insert (rows : List Row)
  /-- Assigns the values of the row that are not NULL. -/
  | update (row : Row) (target : Target)
  /-- Assigns all values of the row. -/
  | replace (row : Row) (target : Target)
  | delete (target : Target)

def Mutation.kind : Mutation → WriteKind
  | .insert _ => .insert
  | .update .. | .replace .. => .update
  | .delete _ => .delete

end EntitySql
