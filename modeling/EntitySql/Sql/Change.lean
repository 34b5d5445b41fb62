/-
  Statements that change and delete rows. They are never written without a condition.
-/
import EntitySql.Sql.Filter
import EntitySql.Sql.Insert

namespace EntitySql

namespace Target

/-- The condition for the rows of a target. There is none for a NULL key or for no keys. -/
def condition? (t : Table) : Target → Option Condition
  | .key value => if value.isNull then none else some ((Operand.field t.key.field).equals value)
  | .keys values => if values.isEmpty then none else some (.isIn (.field t.key.field) values)
  | .matching condition => some condition

/-- The target as it stands behind WHERE. -/
def filter (s : Settings) (t : Table) (kind : WriteKind) (target : Target) : Except Error Sql := do
  let filter ←
    match target.condition? t with
    | some condition => condition.filter? s t []
    | none => pure none
  match filter with
  | some filter => return filter
  | none => throw (.unconditional kind t.sql)

end Target

/-! ## Updates -/

namespace Update

/-- Which columns of a row are assigned: all but the key, and if `sparse` only those whose value is
not NULL. -/
def assigned (t : Table) (sparse : Bool) (row : Row) : List (Column × Value) :=
  (t.columns.zip row).filter fun (column, value) =>
    !column.primaryKey && !(sparse && value.isNull)

/-- The statement that assigns the values of a row to the rows of a target. -/
def sql (s : Settings) (t : Table) (sparse : Bool) (row : Row) (target : Target) :
    Except Error Sql := do
  t.checkWidth row
  let filter ← target.filter s t .update
  let cells := assigned t sparse row
  if cells.isEmpty then throw (.noAssignments t.sql)
  return .plain ("UPDATE " ++ t.sql ++ " SET ") ++
    .joined ", " (cells.map fun (column, value) => ⟨column.sql ++ " = ?", [value]⟩) ++
    .plain " WHERE " ++ filter

end Update

/-! ## Deletions -/

namespace Delete

def sql (s : Settings) (t : Table) (target : Target) : Except Error Sql := do
  return .plain ("DELETE FROM " ++ t.sql ++ " WHERE ") ++ (← target.filter s t .delete)

/-- The targets that are deleted one after the other, so that no statement has too many keys. -/
def targets (d : Dialect) : Target → List Target
  | .keys values =>
    if values.isEmpty then [.keys []] else (chunks d.maxParams values).map .keys
  | target => [target]

end Delete

/-! ## Mutations -/

/-- The statements that carry out a mutation, in order. `multiRow` says that the session takes
inserts of several rows. -/
def Mutation.writes (s : Settings) (t : Table) (multiRow : Bool) :
    Mutation → Except Error (List Write)
  | .insert rows => Insert.writes s t multiRow rows
  | .update row target => do return [.single (← Update.sql s t true row target)]
  | .replace row target => do return [.single (← Update.sql s t false row target)]
  | .delete target => do
    return (← (Delete.targets s.dialect target).mapM (Delete.sql s t)).map .single

end EntitySql
