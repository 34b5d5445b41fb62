/-
  Statements that read: the select statement of a query and the count of its rows.
-/
import EntitySql.Query.Basic
import EntitySql.Sql.Filter

namespace EntitySql

/-- The WHERE part of a statement, which is left out when the condition has no predicate. -/
def Condition.whereClause (s : Settings) (t : Table) (c : Condition) : Except Error Sql := do
  match ← c.filter? s t [] with
  | some filter => return .plain " WHERE " ++ filter
  | none => return .plain ""

namespace Query

/-- What is selected: the operands of the projection, else every column. -/
def selection (s : Settings) (t : Table) (q : Query) : Except Error (List String) :=
  if q.projection.isEmpty then .ok (t.columns.map Column.sql)
  else q.projection.mapM (Operand.sql s t)

def orderItem (s : Settings) (t : Table) (item : OrderItem) : Except Error String := do
  return (← item.operand.sql s t) ++ " " ++ item.direction.sql

/-- The ORDER BY part of a statement, which is left out when there is no order. -/
def orderClause (s : Settings) (t : Table) (q : Query) : Except Error Sql := do
  if q.isOrdered then
    return .plain (" ORDER BY " ++ ", ".intercalate (← q.order.mapM (orderItem s t)))
  else return .plain ""

/-- The statement that reads the rows of the query. -/
def selectSql (s : Settings) (t : Table) (q : Query) : Except Error Sql := do
  let selection ← q.selection s t
  let filter ← q.condition.whereClause s t
  let order ← q.orderClause s t
  let statement :=
    .plain ("SELECT " ++ ", ".intercalate selection ++ " FROM " ++ t.sql) ++ filter ++ order
  match q.page with
  | none => return statement
  | some page => s.dialect.paginate statement page q.isOrdered

/-- The statement that counts the rows that meet the query's condition. -/
def countSql (s : Settings) (t : Table) (q : Query) : Except Error Sql := do
  return .plain ("SELECT COUNT(*) FROM " ++ t.sql) ++ (← q.condition.whereClause s t)

end Query

end EntitySql
