/-
  Filters: conditions as they stand behind WHERE.
-/
import EntitySql.Entity.Table
import EntitySql.Query.Condition
import EntitySql.Sql.Chunks

namespace EntitySql

/-- The column that an operand means, as it stands in statements. -/
def Operand.sql (s : Settings) (t : Table) : Operand → Except Error String
  | .field name => (t.field name).map Column.sql
  | .column name => s.rawColumn t.entity name

namespace Condition

/-- One list of values behind `IN`. -/
def inList (column : String) (values : List Value) : Sql :=
  ⟨column ++ " IN (" ++ placeholders values.length ++ ")", values⟩

/-- Membership in a list of values. Nothing is in the empty list. A list that is too long for the
database is cut into several, in parentheses so that the ORs stay together. -/
def inPredicate (d : Dialect) (column : String) (values : List Value) : Sql :=
  if values.isEmpty then .plain "1 = 0"
  else
    match d.inListLimit? with
    | none => inList column values
    | some limit =>
      match chunks limit values with
      | [only] => inList column only
      | lists => .plain "(" ++ .joined " OR " (lists.map (inList column)) ++ .plain ")"

mutual

/-- The text of a condition, if there is a predicate in it. A group of several predicates stands in
parentheses when it is inside another one. -/
def render (s : Settings) (t : Table) (inner : Bool) : Condition → Except Error (Option Sql)
  | .compare operand op value => do
    let column ← operand.sql s t
    return some ⟨column ++ " " ++ op.sql ++ " ?", [value]⟩
  | .isIn operand values => do
    let column ← operand.sql s t
    return some (inPredicate s.dialect column values)
  | .between operand low high => do
    let column ← operand.sql s t
    return some ⟨column ++ " BETWEEN ? AND ?", [low, high]⟩
  | .nullTest operand isNull => do
    let column ← operand.sql s t
    return some (.plain (column ++ if isNull then " IS NULL" else " IS NOT NULL"))
  | .group logic children => do
    match ← renderAll s t children with
    | [] => return none
    | [only] => return some only
    | parts =>
      let joined := Sql.joined (" " ++ logic.sql ++ " ") parts
      return some (if inner then .plain "(" ++ joined ++ .plain ")" else joined)

/-- The texts of those conditions that have a predicate in them. -/
def renderAll (s : Settings) (t : Table) : List Condition → Except Error (List Sql)
  | [] => return []
  | c :: rest => do
    let part ← render s t true c
    let parts ← renderAll s t rest
    return part.toList ++ parts

end

/-- The condition as it stands behind WHERE, if there is a predicate in it, with its parameters
behind those already bound. -/
def filter? (s : Settings) (t : Table) (c : Condition) (bound : List Value) :
    Except Error (Option Sql) := do
  return (← c.render s t false).map (Sql.after bound)

end Condition

end EntitySql
